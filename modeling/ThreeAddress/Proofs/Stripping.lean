import ThreeAddress.Proofs.Vocabulary

set_option autoImplicit false

namespace ThreeAddress

namespace Terminal

def isShown (c : Char) : Bool := c == '\n' || !isControl c

theorem is_shown_iff (c : Char) :
    isShown c = true ↔ c = '\n' ∨ ¬ (c.toNat < 0x20 ∨ 0x80 ≤ c.toNat ∧ c.toNat ≤ 0x9F) := by
  by_cases feed : c = '\n'
  · simp [isShown, feed]
  · simp [isShown, isControl, feed]
    omega

theorem read_byte_shown (state : State) (byte : UInt8) (c : Char) (written : c ∈ (readByte state byte).2) :
    isShown c = true := by
  by_cases ground : state = .ground
  · subst ground
    by_cases dropped : byte ≤ 0x9F
    · simp [readByte, dropped] at written
    · simp only [readByte, if_neg dropped, List.mem_singleton] at written
      subst written
      decide
  · simp only [readByte] at written
    by_cases fed : byte = 0x0A ∧ state.executes = true
    · rw [if_pos fed, List.mem_singleton] at written
      subst written
      decide
    · rw [if_neg fed] at written
      cases written

theorem read_bytes_shown (state : State) (bytes : List UInt8) (c : Char)
    (written : c ∈ (readBytes state bytes).2) : isShown c = true := by
  induction bytes generalizing state with
  | nil => cases written
  | cons byte tail ih =>
      rcases List.mem_append.mp written with here | later
      · exact read_byte_shown state byte c here
      · exact ih _ later

theorem read_ground (c : Char) (plain : c ≠ escape) : read .ground c = (.ground, [c].filter isShown) := by
  by_cases feed : c = '\n'
  · subst feed
    rfl
  · by_cases control : isControl c = true
    · simp [read, plain, feed, control, isShown]
    · simp [read, plain, feed, control, isShown]

theorem read_shown (state : State) (c shown : Char) (written : shown ∈ (read state c).2) :
    isShown shown = true := by
  by_cases ground : state = .ground
  · subst ground
    by_cases opens : c = Terminal.escape
    · simp [read, opens] at written
    · rw [read_ground c opens] at written
      exact (List.mem_filter.mp written).2
  · simp only [read] at written
    exact read_bytes_shown _ _ _ written

theorem strip_from_shown (state : State) (chars : List Char) (c : Char) (kept : c ∈ stripFrom state chars) :
    isShown c = true := by
  induction chars generalizing state with
  | nil => cases kept
  | cons first tail ih =>
      rcases List.mem_append.mp kept with here | later
      · exact read_shown state first c here
      · exact ih _ later

-- The sequence ends inside a character, on its second byte; the third byte stands alone.
example : strip "\x1bPq\u173fx".toList = "\ufffdx".toList := by decide

theorem strip_text (text rest : List Char) (plain : escape ∉ text) :
    strip (text ++ rest) = text.filter isShown ++ strip rest := by
  induction text with
  | nil => rfl
  | cons c tail ih =>
      have different : c ≠ escape := fun same => plain (same ▸ List.mem_cons_self)
      have later : escape ∉ tail := fun inside => plain (List.mem_cons_of_mem _ inside)
      have first : strip (c :: (tail ++ rest)) = [c].filter isShown ++ strip (tail ++ rest) := by
        rw [strip, stripFrom, read_ground c different]
        rfl
      rw [List.cons_append, first, ih later, ← List.append_assoc, ← List.filter_append, List.singleton_append]

theorem escape_hidden (chars : List Char) (shown : ∀ c ∈ chars, isShown c = true) : escape ∉ chars :=
  fun inside => absurd (shown _ inside) (by decide)

theorem strip_of_shown (chars : List Char) (shown : ∀ c ∈ chars, isShown c = true) : strip chars = chars := by
  have stripped := strip_text chars [] (escape_hidden chars shown)
  rw [List.append_nil, List.filter_eq_self.mpr shown] at stripped
  exact stripped.trans (List.append_nil chars)

theorem strip_start (color : Color) (rest : List Char) : strip (color.start ++ rest) = strip rest := by
  cases color <;> rfl

theorem strip_reset (rest : List Char) : strip (reset ++ rest) = strip rest := rfl

theorem reopen_plain (again text : List Char) (plain : escape ∉ text) : reopen again text = text := by
  induction text with
  | nil => rfl
  | cons c tail ih =>
      have different : c ≠ '\x1b' := fun same => plain (same ▸ List.mem_cons_self)
      have later : escape ∉ tail := fun inside => plain (List.mem_cons_of_mem _ inside)
      rw [reopen, ih later]
      exact fun _ opens => absurd opens different

theorem strip_piece (colored : Bool) (piece : Piece) (rest : List Char) (plain : escape ∉ piece.text.toList) :
    strip (piece.chars colored ++ rest) = piece.text.toList.filter isShown ++ strip rest := by
  obtain ⟨color, text⟩ := piece
  cases colored with
  | false => exact strip_text _ rest plain
  | true =>
      cases color with
      | none => exact strip_text _ rest plain
      | some color =>
          change strip (color.start ++ reopen color.start text.toList ++ reset ++ rest) = _
          rw [reopen_plain _ _ plain, List.append_assoc, List.append_assoc, strip_start,
            strip_text _ _ plain, strip_reset]

theorem strip_styled (colored : Bool) (styled : Styled) (plain : ∀ piece ∈ styled, escape ∉ piece.text.toList) :
    strip (styled.chars colored) = (styled.chars false).filter isShown := by
  induction styled with
  | nil => rfl
  | cons piece tail ih =>
      have later := ih fun other inside => plain other (List.mem_cons_of_mem _ inside)
      rw [Styled.chars, List.flatMap_cons, strip_piece colored piece _ (plain piece List.mem_cons_self)]
      change _ ++ strip (Styled.chars colored tail) = (piece.text.toList ++ Styled.chars false tail).filter isShown
      rw [later, List.filter_append]

end Terminal

open Terminal

theorem not_escape_of_graphic (c : Char) (graphic : isGraphic c = true) : c ≠ escape := by
  intro same
  subst same
  cases graphic

theorem render_eq_filter (colored : Bool) (styled : Styled)
    (plain : ∀ piece ∈ styled, Each (· ≠ escape) piece.text) :
    render colored styled = String.ofList ((display false styled).toList.filter isShown) := by
  rw [render, display, String.toList_ofList, strip_styled]
  intro piece listed inside
  exact plain piece listed _ inside rfl

structure ColorFree (styled : Styled) : Prop where
  same : render true styled = render false styled
  shown : render false styled = String.ofList ((display false styled).toList.filter fun c =>
    c = '\n' ∨ ¬ (c.toNat < 0x20 ∨ 0x80 ≤ c.toNat ∧ c.toNat ≤ 0x9F))

theorem color_free_of_plain (styled : Styled) (plain : ∀ piece ∈ styled, Each (· ≠ escape) piece.text) :
    ColorFree styled := by
  constructor
  · rw [render_eq_filter true styled plain, render_eq_filter false styled plain]
  · rw [render_eq_filter false styled plain]
    congr 1
    apply List.filter_congr
    intro c _
    rw [Bool.eq_iff_iff, decide_eq_true_iff]
    exact is_shown_iff c

theorem render_color_free :
    (∀ program : Program, (∀ name ∈ program.names, escape ∉ name.toList) →
      (∀ text ∈ program.texts, escape ∉ text.toList) → ColorFree program.listing) ∧
    (∀ procedure : Procedure, (∀ name ∈ procedure.names, escape ∉ name.toList) →
      ColorFree procedure.listing) := by
  constructor
  · intro program named written
    apply color_free_of_plain
    apply program.listing_each not_escape_of_graphic (by decide) (by decide)
    · intro name listed c inside same
      exact named name listed (same ▸ inside)
    · intro text listed c inside same
      exact written text listed (same ▸ inside)
  · intro procedure named
    apply color_free_of_plain
    apply procedure.listing_each not_escape_of_graphic (by decide) (by decide)
    intro name listed c inside same
    exact named name listed (same ▸ inside)

namespace Sample

def size : Symbol := ⟨.ofNat 0, "größe", .int⟩

def tabbedProcedure : Procedure :=
  ((Procedure.empty (.ofNat 1) "main\t").bindLocal size).push
    ⟨[.first], .assign (.slot (.ofSymbol size)) (.literal (.int (-3)) 8)⟩

def tabbed : Program :=
  let program := ((Program.initial.bindGlobal size).poolString "a\tb\u0085").2
  { program with procedures := ⟨program.procedures.items.push tabbedProcedure⟩ }

end Sample

theorem tabbed_color_free : ColorFree Sample.tabbed.listing ∧ ColorFree Sample.tabbedProcedure.listing :=
  ⟨render_color_free.1 Sample.tabbed (by decide) (by decide), render_color_free.2 Sample.tabbedProcedure (by decide)⟩

structure Inert (text : String) : Prop where
  shown : ∀ c ∈ text.toList, c = '\n' ∨ ¬ (c.toNat < 0x20 ∨ 0x80 ≤ c.toNat ∧ c.toNat ≤ 0x9F)
  stripped : String.ofList (strip text.toList) = text

theorem inert_render (colored : Bool) (styled : Styled) : Inert (render colored styled) := by
  have shown : ∀ c ∈ (render colored styled).toList, isShown c = true := by
    intro c kept
    rw [render, String.toList_ofList] at kept
    exact strip_from_shown .ground _ c kept
  constructor
  · exact fun c kept => (is_shown_iff c).mp (shown c kept)
  · rw [strip_of_shown _ shown, String.ofList_toList]

theorem render_inert :
    (∀ (program : Program) (colored : Bool), Inert (render colored program.listing)) ∧
    (∀ (procedure : Procedure) (colored : Bool), Inert (render colored procedure.listing)) :=
  ⟨fun program colored => inert_render colored program.listing,
    fun procedure colored => inert_render colored procedure.listing⟩

end ThreeAddress
