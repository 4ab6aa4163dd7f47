import ThreeAddress.Proofs.Outline

set_option autoImplicit false

/- From the lines of an outline the outline can be found again: headings start with a bracket,
   storage is told apart by its role, and code is read back word by word. Two programs with one
   listing therefore differ at most in what the listing leaves out. -/
namespace ThreeAddress

open Terminal

-- A list is cut in one way only into items with a property and a rest that does not go on with them.
theorem cut_unique {α : Type} (property : α → Prop) (front other rest remainder : List α)
    (inside : ∀ item ∈ front, property item) (within : ∀ item ∈ other, property item)
    (ends : ∀ item ∈ rest.head?, ¬ property item) (stops : ∀ item ∈ remainder.head?, ¬ property item)
    (same : front ++ rest = other ++ remainder) : front = other ∧ rest = remainder := by
  induction front generalizing other with
  | nil =>
      cases other with
      | nil => exact ⟨rfl, same⟩
      | cons item tail =>
          rw [List.nil_append] at same
          exact absurd (within item List.mem_cons_self) (ends item (by rw [same]; rfl))
  | cons item tail ih =>
      cases other with
      | nil =>
          rw [List.nil_append] at same
          exact absurd (inside item List.mem_cons_self) (stops item (by rw [← same]; rfl))
      | cons next later =>
          obtain ⟨rfl, shorter⟩ := List.cons.inj same
          obtain ⟨rfl, rests⟩ := ih later (fun item listed => inside item (List.mem_cons_of_mem _ listed))
            (fun item listed => within item (List.mem_cons_of_mem _ listed)) shorter
          exact ⟨rfl, rests⟩

theorem cut_at (c : Char) (front other rest remainder : List Char) (absent : c ∉ front) (missing : c ∉ other)
    (same : front ++ c :: rest = other ++ c :: remainder) : front = other ∧ rest = remainder := by
  have ends : ∀ text : List Char, ∀ item ∈ (c :: text).head?, ¬ item ≠ c := by
    intro text item first apart
    exact apart (Option.some.inj first).symm
  obtain ⟨fronts, rests⟩ := cut_unique (· ≠ c) front other (c :: rest) (c :: remainder)
    (fun item listed here => absent (here ▸ listed)) (fun item listed here => missing (here ▸ listed))
    (ends rest) (ends remainder) same
  exact ⟨fronts, (List.cons.inj rests).2⟩

theorem eq_of_map_eq {α β : Type} (f : α → β) (items others : List α)
    (injective : ∀ item ∈ items, ∀ other ∈ others, f item = f other → item = other)
    (same : items.map f = others.map f) : items = others := by
  induction items generalizing others with
  | nil => exact (List.map_eq_nil_iff.mp same.symm).symm
  | cons item tail ih =>
      cases others with
      | nil => cases same
      | cons other later =>
          obtain ⟨first, rest⟩ := List.cons.inj same
          rw [injective item List.mem_cons_self other List.mem_cons_self first,
            ih later (fun item listed other found =>
              injective item (List.mem_cons_of_mem _ listed) other (List.mem_cons_of_mem _ found)) rest]

theorem joined_injective (lines others : List (List Char)) (single : ∀ line ∈ lines, '\n' ∉ line)
    (unbroken : ∀ line ∈ others, '\n' ∉ line) (same : joined lines = joined others) : lines = others := by
  induction lines generalizing others with
  | nil =>
      cases others with
      | nil => rfl
      | cons other later => simp [joined] at same
  | cons line tail ih =>
      cases others with
      | nil => simp [joined] at same
      | cons other later =>
          simp only [joined, List.flatMap_cons, List.append_assoc, List.singleton_append] at same
          obtain ⟨rfl, rest⟩ := cut_at '\n' _ _ _ _ (single line List.mem_cons_self)
            (unbroken other List.mem_cons_self) same
          rw [ih later (fun line listed => single line (List.mem_cons_of_mem _ listed))
            (fun line listed => unbroken line (List.mem_cons_of_mem _ listed)) rest]

theorem numbered_injective (stem : String) (n m : Nat) (same : stem ++ toString n = stem ++ toString m) : n = m := by
  rw [← number_of_number stem n, same, number_of_number]

theorem blank_absent (text : String) (graphic : Each (isGraphic · = true) text) : ' ' ∉ text.toList :=
  fun inside => absurd (graphic _ inside) (by decide)

theorem size_text_chars (role : String) (width : Nat) : (sizeText role width).toList =
    '(' :: (role.toList ++ (" of ".toList ++ ((toString width).toList ++ " bytes)".toList))) := by
  change ("(" ++ role ++ " of " ++ toString width ++ " bytes)").toList = _
  simp only [String.toList_append, List.append_assoc]
  rfl

theorem storage_text_cut (role other : String) (entry next : String × Nat) (absent : ' ' ∉ entry.1.toList)
    (missing : ' ' ∉ next.1.toList) (same : storageText role entry = storageText other next) :
    entry.1 = next.1 ∧ (sizeText role entry.2).toList = (sizeText other next.2).toList := by
  obtain ⟨names, sizes⟩ := cut_at ' ' _ _ _ _ absent missing same
  exact ⟨String.toList_inj.mp names, sizes⟩

theorem storage_text_injective (role : String) (entry next : String × Nat) (absent : ' ' ∉ entry.1.toList)
    (missing : ' ' ∉ next.1.toList) (same : storageText role entry = storageText role next) : entry = next := by
  obtain ⟨names, sizes⟩ := storage_text_cut role role entry next absent missing same
  rw [size_text_chars, size_text_chars] at sizes
  have widths := List.append_cancel_left (List.append_cancel_left (List.cons.inj sizes).2)
  have numbers := String.toList_inj.mp (List.append_cancel_right widths)
  exact Prod.ext names (numbered_injective "" _ _ (congrArg ("" ++ ·) numbers))

theorem storage_text_role (role other : String) (entry next : String × Nat) (absent : ' ' ∉ entry.1.toList)
    (missing : ' ' ∉ next.1.toList) (first second : Char) (starts : role.toList.head? = some first)
    (begins : other.toList.head? = some second) (different : first ≠ second) :
    storageText role entry ≠ storageText other next := by
  intro same
  obtain ⟨_, sizes⟩ := storage_text_cut role other entry next absent missing same
  rw [size_text_chars, size_text_chars] at sizes
  have heads := congrArg List.head? (List.cons.inj sizes).2
  simp only [List.head?_append, starts, begins, Option.some_or] at heads
  exact different (Option.some.inj heads)

theorem string_name_graphic (id : Handle .string) : Each (isGraphic · = true) id.stringName :=
  (Literal.string id).text_each fun _ graphic => graphic

theorem string_text_injective (entry next : Handle .string × String) (same : stringText entry = stringText next) :
    entry = next := by
  obtain ⟨names, texts⟩ := cut_at ' ' _ _ _ _ (blank_absent _ (string_name_graphic entry.1))
    (blank_absent _ (string_name_graphic next.1)) same
  have ids := numbered_injective "str_" _ _ (String.toList_inj.mp names)
  exact Prod.ext (Handle.index_injective _ _ ids) (String.toList_inj.mp texts)

def columnText (labels : List (Handle .label)) : List Char :=
  labels.flatMap fun label => label.labelName.toList ++ [':', ' ']

theorem label_column_chars (quad : Quad) : quad.labelColumn.toList = columnText quad.labels := by
  simp [Quad.labelColumn, columnText, String.toList_join, List.flatMap_map]

theorem column_text_cons (label : Handle .label) (labels : List (Handle .label)) (rest : List Char) :
    columnText (label :: labels) ++ rest = (label.labelName.toList ++ [':']) ++ ' ' :: (columnText labels ++ rest) := by
  simp [columnText]

theorem column_text_head (label : Handle .label) (labels : List (Handle .label)) (rest : List Char) :
    (columnText (label :: labels) ++ rest).head? = some 'l' := by
  have chars : label.labelName.toList = "lbl_".toList ++ (toString label.index).toList := String.toList_append
  rw [column_text_cons, chars]
  rfl

theorem column_text_unique (labels others : List (Handle .label)) (rest remainder : List Char)
    (ends : ∀ c ∈ rest.head?, c ≠ 'l') (stops : ∀ c ∈ remainder.head?, c ≠ 'l')
    (same : columnText labels ++ rest = columnText others ++ remainder) : labels = others ∧ rest = remainder := by
  induction labels generalizing others with
  | nil =>
      cases others with
      | nil => exact ⟨rfl, same⟩
      | cons other later =>
          have head : rest.head? = some 'l' := (congrArg List.head? same).trans (column_text_head other later remainder)
          exact absurd rfl (ends 'l' head)
  | cons label tail ih =>
      cases others with
      | nil =>
          have head : remainder.head? = some 'l' := (congrArg List.head? same).symm.trans (column_text_head label tail rest)
          exact absurd rfl (stops 'l' head)
      | cons other later =>
          have blank : ∀ label : Handle .label, ' ' ∉ label.labelName.toList ++ [':'] := by
            intro label
            have named := blank_absent label.labelName (label.label_name_each fun _ graphic => graphic)
            simp [named]
          rw [column_text_cons, column_text_cons] at same
          obtain ⟨names, rests⟩ := cut_at ' ' _ _ _ _ (blank label) (blank other) same
          have ids := numbered_injective "lbl_" _ _ (String.toList_inj.mp (List.append_cancel_right names))
          obtain ⟨rfl, done⟩ := ih later rests
          rw [Handle.index_injective _ _ ids]
          exact ⟨rfl, done⟩

theorem Instr.line_head (instr : Instr) : ∀ c ∈ instr.line.head?, c ≠ 'l' := by
  obtain ⟨first, tail, rest, chars, apart, _⟩ := instr.words_head
  have head : instr.line.head? = some first := by
    rw [line, chars]
    cases rest with
    | nil => rw [List.intercalate_singleton]; rfl
    | cons next later => rw [List.intercalate_cons_cons]; rfl
  intro c found
  rw [head] at found
  rw [← Option.some.inj found]
  exact apart

theorem Instr.texts_ne_nil (instr : Instr) : instr.texts ≠ [] := by
  obtain ⟨first, tail, rest, chars, _⟩ := instr.words_head
  intro none
  rw [none] at chars
  cases chars

theorem plain_graphic (name : String) (plain : isPlainName name = true) : Each (isGraphic · = true) name := by
  simp only [isPlainName, Bool.and_eq_true] at plain
  exact identifier_graphic name plain.1.1

theorem Instr.line_injective (instr other : Instr) (named : ∀ name ∈ instr.names, isPlainName name = true)
    (known : ∀ name ∈ other.names, isPlainName name = true) (same : instr.line = other.line) :
    instr.bare = other.bare := by
  have split : ∀ instr : Instr, (∀ name ∈ instr.names, isPlainName name = true) →
      instr.line.splitOn ' ' = instr.texts.map String.toList := by
    intro instr named
    apply List.splitOn_intercalate
    · intro word listed
      obtain ⟨text, inside, rfl⟩ := List.mem_map.mp listed
      obtain ⟨piece, found, rfl⟩ := List.mem_map.mp inside
      exact blank_absent _ (instr.words_each (fun _ graphic => graphic)
        (fun name member => plain_graphic name (named name member)) piece found)
    · exact fun none => instr.texts_ne_nil (List.map_eq_nil_iff.mp none)
  have words : instr.texts.map String.toList = other.texts.map String.toList := by
    rw [← split instr named, ← split other known, same]
  have texts : instr.texts = other.texts := (List.map_inj_right fun _ _ => String.toList_inj.mp).mp words
  have read := instr.of_words_words named
  rw [texts, other.of_words_words known] at read
  exact (Option.some.inj read).symm

theorem quad_text_injective (quad other : Quad) (named : ∀ name ∈ quad.instr.names, isPlainName name = true)
    (known : ∀ name ∈ other.instr.names, isPlainName name = true) (same : quadText quad = quadText other) :
    quad.bare = other.bare := by
  have head : ∀ quad : Quad, ∀ c ∈ (quad.padding.toList ++ quad.instr.line).head?, c ≠ 'l' := by
    intro quad c first
    cases padded : quad.padding.toList with
    | nil =>
        rw [padded] at first
        exact quad.instr.line_head c first
    | cons blank blanks =>
        have blanks : Each (· ≠ 'l') quad.padding := quad.padding_each (by decide)
        rw [padded] at first
        apply blanks c
        rw [padded, ← Option.some.inj first]
        exact List.mem_cons_self
  rw [quad_text_eq, quad_text_eq, label_column_chars, label_column_chars] at same
  obtain ⟨labels, rests⟩ := column_text_unique _ _ _ _ (head quad) (head other) same
  have column : quad.padding = other.padding := by
    rw [Quad.padding, Quad.padding, Quad.labelColumn, Quad.labelColumn, labels]
  rw [column] at rests
  have instrs := quad.instr.line_injective other.instr named known (List.append_cancel_left rests)
  rw [Quad.bare, Quad.bare, labels, instrs]

structure ProcedureOutline.Readable (procedure : ProcedureOutline) : Prop where
  name : isPlainName procedure.name = true
  formals : ∀ entry ∈ procedure.formals, isPlainName entry.1 = true
  locals : ∀ entry ∈ procedure.locals, isPlainName entry.1 = true
  quads : ∀ quad ∈ procedure.quads, ∀ name ∈ quad.instr.names, isPlainName name = true
  bare : ∀ quad ∈ procedure.quads, quad.bare = quad

structure Outline.Readable (outline : Outline) : Prop where
  globals : ∀ entry ∈ outline.globals, isPlainName entry.1 = true
  strings : ∀ entry ∈ outline.strings, Each (isControl · = false) entry.2
  procedures : ∀ procedure ∈ outline.procedures, procedure.Readable

def StorageLine (role : String) (line : List Char) : Prop :=
  ∃ entry : String × Nat, isPlainName entry.1 = true ∧ line = storageText role entry

theorem plain_blank_absent (name : String) (plain : isPlainName name = true) : ' ' ∉ name.toList :=
  blank_absent name (plain_graphic name plain)

theorem temp_name_blank_absent (temp : Handle .temp) : ' ' ∉ temp.tempName.toList :=
  blank_absent _ (temp.temp_name_each fun _ graphic => graphic)

theorem not_storage_line (role other : String) (entry : String × Nat) (absent : ' ' ∉ entry.1.toList)
    (first second : Char) (starts : role.toList.head? = some first) (begins : other.toList.head? = some second)
    (different : second ≠ first) : ¬ StorageLine role (storageText other entry) := by
  rintro ⟨found, plain, same⟩
  exact storage_text_role other role entry found absent (plain_blank_absent _ plain) second first begins starts
    different same

theorem storage_lines (role : String) (entries : List (String × Nat))
    (plain : ∀ entry ∈ entries, isPlainName entry.1 = true) :
    ∀ line ∈ entries.map (storageText role), StorageLine role line := by
  intro line listed
  obtain ⟨entry, inside, rfl⟩ := List.mem_map.mp listed
  exact ⟨entry, plain entry inside, rfl⟩

theorem entries_unique (role : String) (entries others : List (String × Nat))
    (plain : ∀ entry ∈ entries, isPlainName entry.1 = true) (known : ∀ entry ∈ others, isPlainName entry.1 = true)
    (same : entries.map (storageText role) = others.map (storageText role)) : entries = others := by
  apply eq_of_map_eq _ _ _ _ same
  intro entry listed other found equal
  exact storage_text_injective role entry other (plain_blank_absent _ (plain entry listed))
    (plain_blank_absent _ (known other found)) equal

theorem temp_text_injective (temp other : Temp) (same : tempText temp = tempText other) : temp = other := by
  obtain ⟨id, width⟩ := temp
  obtain ⟨id', width'⟩ := other
  have entries := storage_text_injective "tmp var" (id.tempName, width) (id'.tempName, width')
    (temp_name_blank_absent id) (temp_name_blank_absent id') same
  obtain ⟨names, rfl⟩ := Prod.mk.inj entries
  obtain rfl : id = id' := Handle.index_injective _ _ (numbered_injective "tmp" _ _ names)
  rfl

def Inner (line : List Char) : Prop := line.head? ≠ some '['

theorem inner_cons (c : Char) (tail : List Char) (apart : c ≠ '[') : Inner (c :: tail) :=
  fun same => apart (Option.some.inj same)

theorem plain_head (name : String) (plain : isPlainName name = true) :
    ∃ first tail, name.toList = first :: tail ∧ first ≠ '[' := by
  simp only [isPlainName, isIdentifier, Bool.and_eq_true] at plain
  cases chars : name.toList with
  | nil => simp [chars] at plain
  | cons first tail =>
      refine ⟨first, tail, rfl, ?_⟩
      rintro rfl
      simp [chars] at plain

theorem headed (title : String) (rest : List (List Char)) :
    ∀ line ∈ (headingText title :: rest).head?, ¬ Inner line := by
  intro line first apart
  rw [← Option.some.inj first] at apart
  exact apart rfl

theorem heading_text_name (edge name other : String)
    (same : headingText (edge ++ name ++ " LOCALS") = headingText (edge ++ other ++ " LOCALS")) : name = other := by
  have titles := List.append_cancel_right (List.cons.inj same).2
  simp only [String.toList_append, List.append_assoc] at titles
  exact String.toList_inj.mp (List.append_cancel_right (List.append_cancel_left titles))

theorem quads_inside (quads : List Quad) : ∀ line ∈ quads.map quadText, Inner line := by
  intro line listed
  obtain ⟨quad, _, rfl⟩ := List.mem_map.mp listed
  rw [quad_text_eq, label_column_chars]
  cases labels : quad.labels with
  | nil =>
      have blanks : quad.padding = String.ofList (List.replicate 8 ' ') := by
        rw [Quad.padding, Quad.labelColumn, labels]
        rfl
      rw [blanks, String.toList_ofList]
      exact inner_cons ' ' _ (by decide)
  | cons label tail =>
      rw [Inner, column_text_head]
      decide

namespace ProcedureOutline

variable {procedure other : ProcedureOutline}

theorem storage_unique (readable : procedure.Readable) (legible : other.Readable)
    (same : procedure.storage = other.storage) :
    procedure.formals = other.formals ∧ procedure.locals = other.locals ∧ procedure.temps = other.temps := by
  have later : ∀ procedure : ProcedureOutline, procedure.Readable → ∀ line ∈
      (procedure.locals.map (storageText "local var") ++ procedure.temps.map tempText).head?,
      ¬ StorageLine "formal arg" line := by
    intro procedure readable line first
    rcases List.mem_append.mp (List.mem_of_mem_head? first) with before | after
    · obtain ⟨entry, inside, rfl⟩ := List.mem_map.mp before
      exact not_storage_line _ _ entry (plain_blank_absent _ (readable.locals entry inside)) 'f' 'l' rfl rfl (by decide)
    · obtain ⟨temp, _, rfl⟩ := List.mem_map.mp after
      exact not_storage_line _ _ _ (temp_name_blank_absent temp.id) 'f' 't' rfl rfl (by decide)
  have last : ∀ procedure : ProcedureOutline, ∀ line ∈ (procedure.temps.map tempText).head?,
      ¬ StorageLine "local var" line := by
    intro procedure line first
    obtain ⟨temp, _, rfl⟩ := List.mem_map.mp (List.mem_of_mem_head? first)
    exact not_storage_line _ _ _ (temp_name_blank_absent temp.id) 'l' 't' rfl rfl (by decide)
  obtain ⟨formals, rest⟩ := cut_unique (StorageLine "formal arg") _ _ _ _
    (storage_lines _ _ readable.formals) (storage_lines _ _ legible.formals) (later procedure readable)
    (later other legible) same
  obtain ⟨locals, temps⟩ := cut_unique (StorageLine "local var") _ _ _ _
    (storage_lines _ _ readable.locals) (storage_lines _ _ legible.locals) (last procedure) (last other) rest
  exact ⟨entries_unique _ _ _ readable.formals legible.formals formals,
    entries_unique _ _ _ readable.locals legible.locals locals,
    eq_of_map_eq _ _ _ (fun temp _ other _ => temp_text_injective temp other) temps⟩

theorem storage_inside (readable : procedure.Readable) : ∀ line ∈ procedure.storage, Inner line := by
  intro line listed
  have named : ∀ (role : String) (entry : String × Nat), isPlainName entry.1 = true →
      Inner (storageText role entry) := by
    intro role entry plain
    obtain ⟨first, tail, chars, apart⟩ := plain_head entry.1 plain
    rw [storageText, chars]
    exact inner_cons first _ apart
  rw [storage, List.mem_append, List.mem_append] at listed
  rcases listed with formal | place | numbered
  · obtain ⟨entry, inside, rfl⟩ := List.mem_map.mp formal
    exact named _ entry (readable.formals entry inside)
  · obtain ⟨entry, inside, rfl⟩ := List.mem_map.mp place
    exact named _ entry (readable.locals entry inside)
  · obtain ⟨temp, _, rfl⟩ := List.mem_map.mp numbered
    have chars : temp.id.tempName.toList = "tmp".toList ++ (toString temp.id.index).toList := String.toList_append
    rw [tempText, storageText, chars]
    exact inner_cons 't' _ (by decide)

theorem lines_unique (readable : procedure.Readable) (legible : other.Readable) (rest remainder : List (List Char))
    (ends : ∀ line ∈ rest.head?, ¬ Inner line) (stops : ∀ line ∈ remainder.head?, ¬ Inner line)
    (same : procedure.lines ++ rest = other.lines ++ remainder) : procedure = other ∧ rest = remainder := by
  simp only [lines, List.cons_append, List.append_assoc] at same
  obtain ⟨heading, same⟩ := List.cons.inj same
  obtain ⟨storage, same⟩ := cut_unique Inner _ _ _ _ (storage_inside readable) (storage_inside legible)
    (headed _ _) (headed _ _) same
  obtain ⟨_, same⟩ := List.cons.inj same
  obtain ⟨quads, rests⟩ := cut_unique Inner _ _ _ _ (quads_inside _) (quads_inside _) ends stops same
  obtain ⟨formals, locals, temps⟩ := storage_unique readable legible storage
  have code : procedure.quads = other.quads := by
    apply eq_of_map_eq _ _ _ _ quads
    intro quad listed twin found equal
    have bare := quad_text_injective quad twin (readable.quads quad listed) (legible.quads twin found) equal
    rwa [readable.bare quad listed, legible.bare twin found] at bare
  have names := heading_text_name "BEGIN " _ _ heading
  obtain ⟨name, _, _, _, _⟩ := procedure
  obtain ⟨name', _, _, _, _⟩ := other
  simp only at names formals locals temps code
  rw [names, formals, locals, temps, code]
  exact ⟨rfl, rests⟩

theorem lines_head (procedures : List ProcedureOutline) :
    ∀ line ∈ (procedures.flatMap lines).head?, ¬ Inner line := by
  cases procedures with
  | nil => exact fun line first => absurd first (by simp)
  | cons procedure tail => exact headed _ _

theorem all_lines_unique (procedures others : List ProcedureOutline)
    (readable : ∀ procedure ∈ procedures, procedure.Readable)
    (legible : ∀ procedure ∈ others, procedure.Readable) (same : procedures.flatMap lines = others.flatMap lines) :
    procedures = others := by
  induction procedures generalizing others with
  | nil =>
      cases others with
      | nil => rfl
      | cons other later => cases same
  | cons procedure tail ih =>
      cases others with
      | nil => cases same
      | cons other later =>
          rw [List.flatMap_cons, List.flatMap_cons] at same
          obtain ⟨rfl, rest⟩ := lines_unique (readable _ List.mem_cons_self) (legible _ List.mem_cons_self) _ _
            (lines_head tail) (lines_head later) same
          rw [ih later (fun procedure listed => readable procedure (List.mem_cons_of_mem _ listed))
            (fun procedure listed => legible procedure (List.mem_cons_of_mem _ listed)) rest]

end ProcedureOutline

theorem string_text_not_global (entry : Handle .string × String) : ¬ StorageLine "global var" (stringText entry) := by
  rintro ⟨place, plain, same⟩
  obtain ⟨names, _⟩ := cut_at ' ' _ _ _ _ (blank_absent _ (string_name_graphic entry.1))
    (plain_blank_absent _ plain) same
  have numbered : isNumbered "str_" place.1 = true := by
    rw [← String.toList_inj.mp names]
    exact is_numbered_number "str_" entry.1.index
  simp [isPlainName, numbered] at plain

theorem heading_not_storage (role title : String) : ¬ StorageLine role (headingText title) := by
  rintro ⟨entry, plain, same⟩
  obtain ⟨first, tail, chars, apart⟩ := plain_head entry.1 plain
  rw [storageText, chars] at same
  exact apart (List.cons.inj same).1.symm

namespace Outline

variable {outline other : Outline}

theorem lines_unique (readable : outline.Readable) (legible : other.Readable) (same : outline.lines = other.lines) :
    outline = other := by
  have later : ∀ (strings : List (Handle .string × String)) (title : String) (rest : List (List Char)),
      ∀ line ∈ (strings.map stringText ++ headingText title :: rest).head?, ¬ StorageLine "global var" line := by
    intro strings title rest line first
    cases strings with
    | nil =>
        rw [← Option.some.inj first]
        exact heading_not_storage _ title
    | cons entry tail =>
        rw [← Option.some.inj first]
        exact string_text_not_global entry
  have pooled : ∀ strings : List (Handle .string × String), ∀ line ∈ strings.map stringText, Inner line := by
    intro strings line listed
    obtain ⟨entry, _, rfl⟩ := List.mem_map.mp listed
    rw [stringText, entry.1.string_name_chars]
    exact inner_cons 's' _ (by decide)
  obtain ⟨globals, same⟩ := cut_unique (StorageLine "global var") _ _ _ _ (storage_lines _ _ readable.globals)
    (storage_lines _ _ legible.globals) (later _ _ _) (later _ _ _) (List.cons.inj same).2
  obtain ⟨strings, same⟩ := cut_unique Inner _ _ _ _ (pooled _) (pooled _) (headed _ _) (headed _ _) same
  have procedures := ProcedureOutline.all_lines_unique _ _ readable.procedures legible.procedures (List.cons.inj same).2
  have names := entries_unique _ _ _ readable.globals legible.globals globals
  have texts := eq_of_map_eq _ _ _ (fun entry _ next _ => string_text_injective entry next) strings
  obtain ⟨_, _, _⟩ := outline
  obtain ⟨_, _, _⟩ := other
  simp only at names texts procedures
  rw [names, texts, procedures]

end Outline

theorem feed_of_graphic (c : Char) (graphic : isGraphic c = true) : c ≠ '\n' := by
  rintro rfl
  cases graphic

theorem fixed_unbroken (text : String) (fixed : text.toList.all (fun c => isGraphic c || c == ' ') = true) :
    Each (· ≠ '\n') text :=
  each_fixed feed_of_graphic (by decide) text fixed

theorem plain_unbroken (name : String) (plain : isPlainName name = true) : Each (· ≠ '\n') name :=
  fun c inside => feed_of_graphic c (plain_graphic name plain c inside)

theorem heading_text_unbroken (title : String) (unbroken : Each (· ≠ '\n') title) : '\n' ∉ headingText title := by
  intro inside
  simp only [headingText, List.mem_cons, List.mem_append, List.not_mem_nil, or_false] at inside
  rcases inside with start | inside | stop
  · cases start
  · exact unbroken _ inside rfl
  · cases stop

theorem storage_text_unbroken (role : String) (entry : String × Nat) (named : Each (· ≠ '\n') entry.1)
    (fixed : role.toList.all (fun c => isGraphic c || c == ' ') = true) :
    '\n' ∉ storageText role entry := by
  have known := fixed_unbroken role fixed
  have size : Each (· ≠ '\n') (sizeText role entry.2) := each_size feed_of_graphic (by decide) role entry.2 known
  intro inside
  simp only [storageText, List.mem_cons, List.mem_append] at inside
  rcases inside with inside | blank | inside
  · exact named _ inside rfl
  · cases blank
  · exact size _ inside rfl

theorem quad_text_unbroken (quad : Quad) (named : ∀ name ∈ quad.instr.names, isPlainName name = true) :
    '\n' ∉ quadText quad := by
  have pieces := quad.listing_each feed_of_graphic (by decide) fun name listed => plain_unbroken name (named name listed)
  intro inside
  obtain ⟨piece, listed, here⟩ := List.mem_flatMap.mp inside
  exact pieces piece listed _ here rfl

theorem ProcedureOutline.Readable.lines_unbroken {procedure : ProcedureOutline} (readable : procedure.Readable) :
    ∀ line ∈ procedure.lines, '\n' ∉ line := by
  have name := plain_unbroken _ readable.name
  have titled : ∀ edge, Each (· ≠ '\n') edge → '\n' ∉ headingText (edge ++ procedure.name ++ " LOCALS") := by
    intro edge known
    exact heading_text_unbroken _ ((known.append name).append (fixed_unbroken _ (by decide)))
  have opening := titled "BEGIN " (fixed_unbroken _ (by decide))
  have closing := titled "END " (fixed_unbroken _ (by decide))
  simp only [lines, storage, List.forall_mem_cons, List.forall_mem_append, List.forall_mem_map]
  refine ⟨opening, ⟨?_, ?_, ?_⟩, closing, ?_⟩
  · exact fun entry listed => storage_text_unbroken _ _ (plain_unbroken _ (readable.formals entry listed)) (by decide)
  · exact fun entry listed => storage_text_unbroken _ _ (plain_unbroken _ (readable.locals entry listed)) (by decide)
  · exact fun temp _ => storage_text_unbroken _ _ (temp.id.temp_name_each feed_of_graphic) (by decide)
  · exact fun quad listed => quad_text_unbroken quad (readable.quads quad listed)

theorem Outline.Readable.lines_unbroken {outline : Outline} (readable : outline.Readable) :
    ∀ line ∈ outline.lines, '\n' ∉ line := by
  have opening := heading_text_unbroken "BEGIN GLOBALS" (fixed_unbroken _ (by decide))
  have closing := heading_text_unbroken "END GLOBALS" (fixed_unbroken _ (by decide))
  simp only [lines, List.forall_mem_cons, List.forall_mem_append, List.forall_mem_map, List.forall_mem_flatMap]
  refine ⟨opening, ?_, ?_, closing, ?_⟩
  · exact fun entry listed => storage_text_unbroken _ _ (plain_unbroken _ (readable.globals entry listed)) (by decide)
  · intro entry listed inside
    simp only [stringText, List.mem_append, List.mem_cons] at inside
    rcases inside with inside | blank | inside
    · cases string_name_graphic entry.1 _ inside
    · cases blank
    · cases readable.strings entry listed _ inside
  · exact fun procedure listed => (readable.procedures procedure listed).lines_unbroken

structure Program.Plain (program : Program) : Prop where
  names : ∀ name ∈ program.names, isPlainName name = true
  texts : ∀ text ∈ program.texts, ∀ c ∈ text.toList, isControl c = false

theorem Program.plain_iff (program : Program) : program.Plain ↔ program.names.all isPlainName = true ∧
    program.texts.all (fun text => text.toList.all fun c => !isControl c) = true := by
  simp only [List.all_eq_true, Bool.not_eq_true']
  exact ⟨fun plain => ⟨plain.names, plain.texts⟩, fun both => ⟨both.1, both.2⟩⟩

instance (program : Program) : Decidable program.Plain := decidable_of_iff _ program.plain_iff.symm

theorem Procedure.outline_readable (procedure : Procedure)
    (plain : ∀ name ∈ procedure.names, isPlainName name = true) : procedure.outline.Readable := by
  simp only [Procedure.names, List.cons_append, List.forall_mem_cons, List.forall_mem_append,
    List.forall_mem_map, List.forall_mem_flatMap] at plain
  obtain ⟨name, ⟨formals, locals⟩, quads⟩ := plain
  constructor
  case name => exact name
  case formals => exact List.forall_mem_map.mpr formals
  case locals => exact List.forall_mem_map.mpr locals
  case quads =>
    intro bare listed
    obtain ⟨quad, inside, rfl⟩ := List.mem_map.mp listed
    rw [Quad.bare, Instr.names_bare]
    exact quads quad inside
  case bare =>
    intro bare listed
    obtain ⟨quad, _, rfl⟩ := List.mem_map.mp listed
    rw [Quad.bare, Quad.bare, Instr.bare_bare]

theorem Program.Plain.outline_readable {program : Program} (plain : program.Plain) : program.outline.Readable := by
  obtain ⟨names, texts⟩ := plain
  simp only [Program.names, List.forall_mem_append, List.forall_mem_map, List.forall_mem_flatMap] at names
  constructor
  case globals => exact List.forall_mem_map.mpr names.1
  case strings => exact fun entry listed => texts _ (List.mem_map_of_mem listed)
  case procedures =>
    intro outline listed
    obtain ⟨procedure, inside, rfl⟩ := List.mem_map.mp listed
    exact procedure.outline_readable (names.2 procedure (List.mem_filter.mp inside).1)

theorem shown_of_graphic (c : Char) (graphic : isGraphic c = true) : isShown c = true := by
  simp only [isGraphic, Bool.and_eq_true, decide_eq_true_eq] at graphic
  rw [is_shown_iff]
  omega

theorem Program.Plain.render_outline {program : Program} (plain : program.Plain) (colored : Bool) :
    render colored program.listing = String.ofList (joined program.outline.lines) := by
  have pieces := program.listing_each shown_of_graphic (by decide) (by decide)
    (fun name listed c inside => shown_of_graphic c (plain_graphic name (plain.names name listed) c inside))
    (fun text listed c inside => by simp [isShown, plain.texts text listed c inside])
  have shown : ∀ c ∈ Styled.chars false program.listing, isShown c = true := by
    intro c inside
    obtain ⟨piece, listed, here⟩ := List.mem_flatMap.mp inside
    exact pieces piece listed c here
  have hidden : ∀ piece ∈ program.listing, escape ∉ piece.text.toList :=
    fun piece listed => escape_hidden _ (pieces piece listed)
  rw [render, strip_styled colored _ hidden, List.filter_eq_self.mpr shown, Program.listing_chars]

theorem listing_unambiguous (left right : Program) (plain : left.Plain) (clear : right.Plain) (colored dyed : Bool) :
    render colored left.listing = render dyed right.listing ↔ left.outline = right.outline := by
  rw [plain.render_outline, clear.render_outline]
  constructor
  · intro same
    have readable := plain.outline_readable
    have legible := clear.outline_readable
    have lines := joined_injective _ _ readable.lines_unbroken legible.lines_unbroken (String.ofList_injective same)
    exact Outline.lines_unique readable legible lines
  · intro same
    rw [same]

-- A pooled text that reads like a line of storage, and code with all that a listing leaves out.
def Sample.scored (symbol callee : Nat) (value : Literal) (width : Nat) (type : DataType) : Program :=
  let score : Symbol := ⟨.ofNat symbol, "score", .int⟩
  let program := ((Program.initial.bindGlobal score).poolString "score (global var of 8 bytes)").2
  let main := (((Procedure.empty (.ofNat 1) "main").bindLocal score).push
    ⟨[.first], .write (.literal value width) type⟩).push (.plain (.call (.ofNat callee) "print"))
  { program with procedures := ⟨program.procedures.items.push main⟩ }

theorem scored_unambiguous :
    Sample.scored 0 1 (.bool true) 8 .bool ≠ Sample.scored 5 9 (.int 1) 0 .int ∧
    render true (Sample.scored 0 1 (.bool true) 8 .bool).listing =
      render false (Sample.scored 5 9 (.int 1) 0 .int).listing ∧
    render true (Sample.scored 0 1 (.bool true) 8 .bool).listing ≠
      render true (Sample.scored 0 1 (.bool false) 8 .bool).listing := by
  have plain : (Sample.scored 0 1 (.bool true) 8 .bool).Plain := by decide
  have clear : (Sample.scored 5 9 (.int 1) 0 .int).Plain := by decide
  have negated : (Sample.scored 0 1 (.bool false) 8 .bool).Plain := by decide
  refine ⟨by decide, ?_, ?_⟩
  · exact (listing_unambiguous _ _ plain clear true false).mpr (by decide)
  · exact fun same => absurd ((listing_unambiguous _ _ plain negated true true).mp same) (by decide)

end ThreeAddress
