import ThreeAddress.Proofs.Reading
import ThreeAddress.Proofs.Stripping

set_option autoImplicit false

namespace ThreeAddress

open Terminal

structure ProcedureOutline where
  name : String
  formals : List (String × Nat)
  locals : List (String × Nat)
  temps : List Temp
  quads : List Quad
deriving DecidableEq

structure Outline where
  globals : List (String × Nat)
  strings : List (Handle .string × String)
  procedures : List ProcedureOutline
deriving DecidableEq

def Slot.outline (slot : Slot) : String × Nat := (slot.name, slot.width)

def Procedure.outline (procedure : Procedure) : ProcedureOutline :=
  ⟨procedure.name, procedure.formals.toList.map Slot.outline, procedure.locals.toList.map Slot.outline,
    procedure.temps.items.toList, procedure.quads.toList.map Quad.bare⟩

def Program.outline (program : Program) : Outline :=
  ⟨program.globals.values.map Slot.outline, program.strings.entries,
    (program.procedures.items.toList.filter fun procedure => procedure.id != initId).map Procedure.outline⟩

def sizeText (role : String) (width : Nat) : String := s!"({role} of {width} bytes)"

def storageText (role : String) (entry : String × Nat) : List Char :=
  entry.1.toList ++ ' ' :: (sizeText role entry.2).toList

def tempText (temp : Temp) : List Char := storageText "tmp var" (temp.id.tempName, temp.width)

def stringText (entry : Handle .string × String) : List Char := entry.1.stringName.toList ++ ' ' :: entry.2.toList

def headingText (title : String) : List Char := '[' :: (title.toList ++ [']'])

def Instr.line (instr : Instr) : List Char := [' '].intercalate (instr.texts.map String.toList)

def quadText (quad : Quad) : List Char := Styled.chars false quad.listing

def ProcedureOutline.storage (procedure : ProcedureOutline) : List (List Char) :=
  procedure.formals.map (storageText "formal arg") ++ (procedure.locals.map (storageText "local var") ++
    procedure.temps.map tempText)

def ProcedureOutline.lines (procedure : ProcedureOutline) : List (List Char) :=
  headingText ("BEGIN " ++ procedure.name ++ " LOCALS") :: (procedure.storage ++
    headingText ("END " ++ procedure.name ++ " LOCALS") :: procedure.quads.map quadText)

def Outline.lines (outline : Outline) : List (List Char) :=
  headingText "BEGIN GLOBALS" :: (outline.globals.map (storageText "global var") ++ (outline.strings.map stringText ++
    headingText "END GLOBALS" :: outline.procedures.flatMap ProcedureOutline.lines))

def joined (lines : List (List Char)) : List Char := lines.flatMap (· ++ ['\n'])

theorem joined_append (front back : List (List Char)) : joined (front ++ back) = joined front ++ joined back :=
  List.flatMap_append

theorem chars_append (front back : Styled) :
    Styled.chars false (front ++ back) = Styled.chars false front ++ Styled.chars false back :=
  List.flatMap_append

theorem chars_flat_map {α : Type} (items : List α) (listing : α → Styled) (lines : α → List (List Char))
    (each : ∀ item, Styled.chars false (listing item) = joined (lines item)) :
    Styled.chars false (items.flatMap listing) = joined (items.flatMap lines) := by
  induction items with
  | nil => rfl
  | cons item tail ih => rw [List.flatMap_cons, chars_append, each, ih, List.flatMap_cons, joined_append]

theorem chars_lines {α : Type} (items : List α) (listing : α → Styled) (text : α → List Char)
    (each : ∀ item, Styled.chars false (listing item) = joined [text item]) :
    Styled.chars false (items.flatMap listing) = joined (items.map text) := by
  rw [chars_flat_map items listing (fun item => [text item]) each, List.map_eq_flatMap]

theorem heading_chars (title : String) : Styled.chars false (heading title) = joined [headingText title] := by
  simp [Styled.chars, heading, Piece.chars, Piece.painted, newline, Piece.plain, joined, headingText]

theorem storage_line_chars (name : Piece) (role : String) (width : Nat) :
    Styled.chars false (storageLine name role width) = joined [storageText role (name.text, width)] := by
  simp [Styled.chars, storageLine, Piece.chars, Piece.painted, Piece.plain, newline, joined, storageText, sizeText]

theorem string_line_chars (entry : Handle .string × String) :
    Styled.chars false (stringLine entry) = joined [stringText entry] := by
  simp [Styled.chars, stringLine, Piece.chars, Piece.painted, Piece.plain, newline, joined, stringText]

theorem intersperse_chars (pieces : List Piece) :
    Styled.chars false (pieces.intersperse (.plain " ")) =
      [' '].intercalate ((pieces.map Piece.text).map String.toList) := by
  induction pieces with
  | nil => rfl
  | cons piece tail ih =>
      cases tail with
      | nil => simp [Styled.chars, Piece.chars]
      | cons next rest =>
          rw [List.intersperse_cons_cons, List.map_cons, List.map_cons, List.map_cons, List.map_cons,
            List.intercalate_cons_cons, ← List.map_cons, ← List.map_cons, ← ih, List.append_assoc]
          rfl

theorem quad_text_eq (quad : Quad) : quadText quad =
    quad.labelColumn.toList ++ (quad.padding.toList ++ quad.instr.line) := by
  rw [Instr.line, Instr.texts, ← intersperse_chars]
  rfl

theorem quad_text_bare (quad : Quad) : quadText quad.bare = quadText quad := by
  rw [quad_text_eq, quad_text_eq, Quad.bare, Instr.line, Instr.texts_bare]
  rfl

theorem quad_chars (quad : Quad) :
    Styled.chars false (quad.listing ++ [newline]) = joined [quadText quad.bare] := by
  rw [quad_text_bare, chars_append]
  simp [joined, quadText, Styled.chars, newline, Piece.plain, Piece.chars]

theorem Procedure.listing_chars (procedure : Procedure) :
    Styled.chars false procedure.listing = joined procedure.outline.lines := by
  have formals := chars_lines procedure.formals.toList (Slot.line "formal arg")
    (storageText "formal arg" ∘ Slot.outline) fun slot => storage_line_chars _ _ _
  have locals := chars_lines procedure.locals.toList (Slot.line "local var")
    (storageText "local var" ∘ Slot.outline) fun slot => storage_line_chars _ _ _
  have temps := chars_lines procedure.temps.items.toList Temp.line tempText fun temp => storage_line_chars _ _ _
  have quads := chars_lines procedure.quads.toList (fun quad => quad.listing ++ [newline])
    (quadText ∘ Quad.bare) quad_chars
  simp only [Procedure.listing, chars_append, heading_chars, formals, locals, temps, quads, ← joined_append]
  simp [ProcedureOutline.lines, ProcedureOutline.storage, Procedure.outline]

theorem Program.listing_chars (program : Program) :
    Styled.chars false program.listing = joined program.outline.lines := by
  have globals := chars_lines program.globals.values (Slot.line "global var")
    (storageText "global var" ∘ Slot.outline) fun slot => storage_line_chars _ _ _
  have strings := chars_lines program.strings.entries stringLine stringText string_line_chars
  have procedures := chars_flat_map (program.procedures.items.toList.filter fun procedure => procedure.id != initId)
    Procedure.listing (fun procedure => procedure.outline.lines) Procedure.listing_chars
  simp only [Program.listing, chars_append, heading_chars, globals, strings, procedures, ← joined_append]
  simp [Outline.lines, Program.outline, List.flatMap_map]

end ThreeAddress
