import ThreeAddress.Listing

set_option autoImplicit false

namespace ThreeAddress

open Terminal

def Operand.names : Operand → List String
  | .slot place => [place.name]
  | .literal .. | .temp .. => []

def Instr.names : Instr → List String
  | .assign dst src | .unary _ dst src => dst.names ++ src.names
  | .binary _ dst lhs rhs => dst.names ++ lhs.names ++ rhs.names
  | .ifZero operand _ | .setArg _ operand | .getArg _ operand | .setRet operand | .getRet operand
  | .magic operand | .write operand _ | .read operand _ => operand.names
  | .call _ name => [name]
  | .goto _ | .nop | .ret => []

def Procedure.names (procedure : Procedure) : List String :=
  procedure.name :: procedure.formals.toList.map Slot.name ++ procedure.locals.toList.map Slot.name ++
    procedure.quads.toList.flatMap fun quad => quad.instr.names

def Program.names (program : Program) : List String :=
  program.globals.values.map Slot.name ++ program.procedures.items.toList.flatMap Procedure.names

def Program.texts (program : Program) : List String := program.strings.values

theorem mem_intersperse {α : Type} {separator item : α} {items : List α}
    (listed : item ∈ items.intersperse separator) : item = separator ∨ item ∈ items := by
  fun_induction List.intersperse separator items with
  | case1 => cases listed
  | case2 => exact .inr listed
  | case3 first tail _ ih =>
      rcases List.mem_cons.mp listed with rfl | rest
      · exact .inr List.mem_cons_self
      · rcases List.mem_cons.mp rest with rfl | rest
        · exact .inl rfl
        · exact (ih rest).imp_right (List.mem_cons_of_mem _)

def Each (property : Char → Prop) (text : String) : Prop := ∀ c ∈ text.toList, property c

def isGraphic (c : Char) : Bool := 0x21 ≤ c.toNat && c.toNat ≤ 0x7E

theorem number_digits (n : Nat) : Each (·.isDigit = true) (toString n) := by
  intro c inside
  rw [Nat.toString_eq_repr, Nat.toList_repr] at inside
  exact Nat.isDigit_of_mem_toDigits (by decide) (by decide) inside

section

variable {property : Char → Prop}

theorem Each.append {front back : String} (first : Each property front) (second : Each property back) :
    Each property (front ++ back) := by
  intro c inside
  rw [String.toList_append] at inside
  rcases List.mem_append.mp inside with before | after
  · exact first c before
  · exact second c after

theorem each_join (texts : List String) (each : ∀ text ∈ texts, Each property text) :
    Each property (String.join texts) := by
  intro c inside
  rw [String.toList_join] at inside
  obtain ⟨text, listed, here⟩ := List.mem_flatMap.mp inside
  exact each text listed c here

theorem each_newline (feed : property '\n') : Each property newline.text := by
  intro c inside
  rw [List.mem_singleton.mp inside]
  exact feed

theorem Quad.padding_each (space : property ' ') (quad : Quad) : Each property quad.padding := by
  intro c inside
  rw [Quad.padding, String.toList_ofList] at inside
  rw [List.eq_of_mem_replicate inside]
  exact space

variable (graphic : ∀ c, isGraphic c = true → property c)

include graphic

theorem each_word (text : String) (fixed : text.toList.all isGraphic = true) : Each property text :=
  fun c inside => graphic c (List.all_eq_true.mp fixed c inside)

theorem each_number (n : Nat) : Each property (toString n) := by
  intro c inside
  have digit := number_digits n c inside
  apply graphic
  simp only [Char.isDigit, Bool.and_eq_true, decide_eq_true_eq] at digit
  obtain ⟨low, high⟩ := digit
  have low : 48 ≤ c.toNat := low
  have high : c.toNat ≤ 57 := high
  simp only [isGraphic, Bool.and_eq_true, decide_eq_true_eq]
  omega

theorem each_integer (n : Int) : Each property (toString n) := by
  rw [Int.toString_eq_repr, Int.repr_eq_if]
  by_cases positive : 0 ≤ n
  · rw [if_pos positive]
    exact each_number graphic _
  · rw [if_neg positive]
    exact (each_word graphic "-" (by decide)).append (each_number graphic _)

theorem Literal.text_each (literal : Literal) : Each property literal.text := by
  cases literal with
  | int value => exact each_integer graphic _
  | bool value => cases value <;> exact each_word graphic _ (by decide)
  | string id => exact (each_word graphic "str_" (by decide)).append (each_number graphic _)

theorem Handle.label_name_each (label : Handle .label) : Each property label.labelName :=
  (each_word graphic "lbl_" (by decide)).append (each_number graphic _)

theorem Handle.temp_name_each (temp : Handle .temp) : Each property temp.tempName :=
  (each_word graphic "tmp" (by decide)).append (each_number graphic _)

theorem bracketed_each (text : String) (known : Each property text) : Each property ("[" ++ text ++ "]") :=
  ((each_word graphic "[" (by decide)).append known).append (each_word graphic "]" (by decide))

theorem Operand.piece_each (operand : Operand) (named : ∀ name ∈ operand.names, Each property name) :
    Each property operand.piece.text := by
  cases operand with
  | literal value width => exact value.text_each graphic
  | slot place => exact bracketed_each graphic place.name (named _ List.mem_cons_self)
  | temp place => exact bracketed_each graphic place.id.tempName (place.id.temp_name_each graphic)

theorem UnaryOp.mnemonic_each (op : UnaryOp) : Each property op.mnemonic := by
  cases op <;> exact each_word graphic _ (by decide)

theorem BinaryOp.mnemonic_each (op : BinaryOp) : Each property op.mnemonic := by
  cases op <;> exact each_word graphic _ (by decide)

theorem Instr.words_each (instr : Instr) (named : ∀ name ∈ instr.names, Each property name) :
    ∀ piece ∈ instr.words, Each property piece.text := by
  have word := fun (text : String) (fixed : text.toList.all isGraphic = true) => each_word graphic text fixed
  have number := fun (n : Nat) => each_number graphic n
  have label := fun (target : Handle .label) => target.label_name_each graphic
  have operand := fun (operand : Operand) => operand.piece_each graphic
  cases instr <;> simp only [words, names, List.forall_mem_cons, List.forall_mem_append,
    List.not_mem_nil, false_implies, implies_true, and_true] at named ⊢
  case assign dst src => exact ⟨operand dst named.1, word _ (by decide), operand src named.2⟩
  case unary op dst src =>
    exact ⟨operand dst named.1, word _ (by decide), op.mnemonic_each graphic, operand src named.2⟩
  case binary op dst lhs rhs =>
    exact ⟨operand dst named.1.1, word _ (by decide), operand lhs named.1.2, op.mnemonic_each graphic,
      operand rhs named.2⟩
  case ifZero cond target => exact ⟨word _ (by decide), operand cond named, word _ (by decide), label target⟩
  case goto target => exact ⟨word _ (by decide), label target⟩
  case nop => exact word _ (by decide)
  case call callee name => exact ⟨word _ (by decide), named⟩
  case setArg n src => exact ⟨word _ (by decide), number n, operand src named⟩
  case getArg n dst => exact ⟨word _ (by decide), number n, operand dst named⟩
  case setRet src => exact ⟨word _ (by decide), operand src named⟩
  case getRet dst => exact ⟨word _ (by decide), operand dst named⟩
  case ret => exact word _ (by decide)
  case magic dst => exact ⟨operand dst named, word _ (by decide), word _ (by decide)⟩
  case write src type => exact ⟨word _ (by decide), operand src named⟩
  case read dst type => exact ⟨word _ (by decide), operand dst named⟩

theorem heading_each (feed : property '\n') (title : String) (known : Each property title) :
    ∀ piece ∈ heading title, Each property piece.text := by
  simp only [heading, List.forall_mem_cons, List.not_mem_nil, false_implies, implies_true, and_true]
  exact ⟨bracketed_each graphic title known, each_newline feed⟩

variable (space : property ' ')

include space

theorem each_fixed (text : String) (fixed : text.toList.all (fun c => isGraphic c || c == ' ') = true) :
    Each property text := by
  intro c inside
  have spaced := List.all_eq_true.mp fixed c inside
  rw [Bool.or_eq_true, beq_iff_eq] at spaced
  rcases spaced with shown | blank
  · exact graphic c shown
  · rw [blank]
    exact space

theorem each_size (role : String) (width : Nat) (known : Each property role) :
    Each property s!"({role} of {width} bytes)" := by
  have sized := (each_number graphic width).append (each_fixed graphic space " bytes)" (by decide))
  have opened := (each_fixed graphic space "(" (by decide)).append known
  have each := (opened.append (each_fixed graphic space " of " (by decide))).append sized
  rwa [← String.append_assoc] at each

theorem Instr.listing_each (instr : Instr) (named : ∀ name ∈ instr.names, Each property name) :
    ∀ piece ∈ instr.listing, Each property piece.text := by
  intro piece listed
  rcases mem_intersperse listed with rfl | inside
  · exact each_fixed graphic space " " (by decide)
  · exact instr.words_each graphic named piece inside

theorem Quad.label_column_each (quad : Quad) : Each property quad.labelColumn := by
  apply each_join
  intro text listed
  obtain ⟨label, _, rfl⟩ := List.mem_map.mp listed
  exact (label.label_name_each graphic).append (each_fixed graphic space ": " (by decide))

theorem Quad.listing_each (quad : Quad) (named : ∀ name ∈ quad.instr.names, Each property name) :
    ∀ piece ∈ quad.listing, Each property piece.text := by
  rw [Quad.listing, List.forall_mem_cons, List.forall_mem_cons]
  exact ⟨quad.label_column_each graphic space, quad.padding_each space, quad.instr.listing_each graphic space named⟩

variable (feed : property '\n')

include feed

theorem storage_line_each (name : Piece) (role : String) (width : Nat) (named : Each property name.text)
    (fixed : role.toList.all (fun c => isGraphic c || c == ' ') = true) :
    ∀ piece ∈ storageLine name role width, Each property piece.text := by
  have known := each_fixed graphic space role fixed
  simp only [storageLine, List.forall_mem_cons, List.not_mem_nil, false_implies, implies_true, and_true]
  exact ⟨named, each_fixed graphic space " " (by decide), each_size graphic space role width known, each_newline feed⟩

theorem section_heading_each (edge name : String) (named : Each property name)
    (fixed : edge.toList.all (fun c => isGraphic c || c == ' ') = true) :
    ∀ piece ∈ heading (edge ++ name ++ " LOCALS"), Each property piece.text := by
  have known := each_fixed graphic space edge fixed
  exact heading_each graphic feed _ ((known.append named).append (each_fixed graphic space " LOCALS" (by decide)))

theorem Procedure.listing_each (procedure : Procedure) (named : ∀ name ∈ procedure.names, Each property name) :
    ∀ piece ∈ procedure.listing, Each property piece.text := by
  simp only [Procedure.names, List.cons_append, List.forall_mem_cons, List.forall_mem_append,
    List.forall_mem_map, List.forall_mem_flatMap] at named
  obtain ⟨name, ⟨formals, locals⟩, quads⟩ := named
  have opening := section_heading_each graphic space feed "BEGIN " procedure.name name (by decide)
  have closing := section_heading_each graphic space feed "END " procedure.name name (by decide)
  simp only [Procedure.listing, List.forall_mem_append, List.forall_mem_flatMap]
  refine ⟨⟨⟨⟨⟨opening, ?_⟩, ?_⟩, ?_⟩, closing⟩, ?_⟩
  · exact fun slot listed => storage_line_each graphic space feed _ _ _ (formals slot listed) (by decide)
  · exact fun slot listed => storage_line_each graphic space feed _ _ _ (locals slot listed) (by decide)
  · exact fun temp _ => storage_line_each graphic space feed _ _ _ (temp.id.temp_name_each graphic) (by decide)
  · exact fun quad listed => ⟨quad.listing_each graphic space (quads quad listed),
      fun piece last => List.mem_singleton.mp last ▸ each_newline feed⟩

theorem string_line_each (entry : Handle .string × String) (written : Each property entry.2) :
    ∀ piece ∈ stringLine entry, Each property piece.text := by
  simp only [stringLine, List.forall_mem_cons, List.not_mem_nil, false_implies, implies_true, and_true]
  exact ⟨(Literal.string entry.1).text_each graphic, each_fixed graphic space " " (by decide), written, each_newline feed⟩

theorem Program.listing_each (program : Program) (named : ∀ name ∈ program.names, Each property name)
    (written : ∀ text ∈ program.texts, Each property text) :
    ∀ piece ∈ program.listing, Each property piece.text := by
  simp only [Program.names, List.forall_mem_append, List.forall_mem_map, List.forall_mem_flatMap] at named
  obtain ⟨globals, procedures⟩ := named
  have opening := heading_each graphic feed "BEGIN GLOBALS" (each_fixed graphic space _ (by decide))
  have closing := heading_each graphic feed "END GLOBALS" (each_fixed graphic space _ (by decide))
  simp only [Program.listing, List.forall_mem_append, List.forall_mem_flatMap]
  refine ⟨⟨⟨⟨opening, ?_⟩, ?_⟩, closing⟩, ?_⟩
  · exact fun slot listed => storage_line_each graphic space feed _ _ _ (globals slot listed) (by decide)
  · exact fun entry listed => string_line_each graphic space feed entry (written _ (List.mem_map_of_mem listed))
  · exact fun procedure listed =>
      procedure.listing_each graphic space feed (procedures procedure (List.mem_filter.mp listed).1)

end

end ThreeAddress
