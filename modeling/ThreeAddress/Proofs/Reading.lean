import ThreeAddress.Proofs.Handles
import ThreeAddress.Proofs.Vocabulary

set_option autoImplicit false

namespace ThreeAddress

open Terminal

def isIdentifier (name : String) : Bool :=
  match name.toList with
  | [] => false
  | first :: tail => (first.isAlpha || first == '_') && tail.all fun c => c.isAlphanum || c == '_'

def isNumbered (stem name : String) : Bool :=
  let digits := name.toList.drop stem.toList.length
  name.toList.take stem.toList.length == stem.toList && !digits.isEmpty && digits.all Char.isDigit

def isPlainName (name : String) : Bool :=
  isIdentifier name && !isNumbered "tmp" name && !isNumbered "str_" name

theorem is_numbered_number (stem : String) (n : Nat) : isNumbered stem (stem ++ toString n) = true := by
  have digits := number_digits n
  rw [Each, Nat.toString_eq_repr, Nat.toList_repr] at digits
  simpa [isNumbered, Nat.toDigits_ne_nil] using digits

theorem is_graphic_of_is_alphanum (c : Char) (letter : c.isAlphanum = true) : isGraphic c = true := by
  have ranges : (decide ('A'.val ≤ c.val ∧ c.val ≤ 'Z'.val) || ('a'.val ≤ c.val && c.val ≤ 'z'.val) ||
      ('0'.val ≤ c.val && c.val ≤ '9'.val)) = true := letter
  simp only [Bool.or_eq_true, Bool.and_eq_true, decide_eq_true_eq, UInt32.le_iff_toNat_le, Char.reduceVal,
    UInt32.reduceToNat] at ranges
  have code : c.toNat = c.val.toNat := rfl
  simp only [isGraphic, Bool.and_eq_true, decide_eq_true_eq]
  omega

theorem identifier_graphic (name : String) (plain : isIdentifier name = true) :
    Each (isGraphic · = true) name := by
  have sound : ∀ c : Char, c.isAlphanum = true ∨ c = '_' → isGraphic c = true := by
    intro c letter
    rcases letter with letter | rfl
    · exact is_graphic_of_is_alphanum c letter
    · decide
  intro c inside
  unfold isIdentifier at plain
  cases chars : name.toList with
  | nil =>
      rw [chars] at inside
      cases inside
  | cons first tail =>
      simp only [chars, Bool.and_eq_true, List.all_eq_true, Bool.or_eq_true, beq_iff_eq] at plain
      rw [chars] at inside
      rcases List.mem_cons.mp inside with rfl | later
      · exact sound c (plain.1.imp_left fun letter => by simp [Char.isAlphanum, letter])
      · exact sound c (plain.2 c later)

/- What the text of an instruction leaves out is set to a fixed value. -/
def Literal.bare : Literal → Literal
  | .int value => .int value
  | .bool value => .int (if value then 1 else 0)
  | .string id => .string id

def Operand.bare : Operand → Operand
  | .literal value _ => .literal value.bare 0
  | .slot place => .slot ⟨.first, place.name, 0⟩
  | .temp place => .temp ⟨place.id, 0⟩

def Instr.bare : Instr → Instr
  | .assign dst src => .assign dst.bare src.bare
  | .unary op dst src => .unary op dst.bare src.bare
  | .binary op dst lhs rhs => .binary op dst.bare lhs.bare rhs.bare
  | .ifZero cond target => .ifZero cond.bare target
  | .goto target => .goto target
  | .nop => .nop
  | .call _ name => .call .first name
  | .setArg position src => .setArg position src.bare
  | .getArg position dst => .getArg position dst.bare
  | .setRet src => .setRet src.bare
  | .getRet dst => .getRet dst.bare
  | .ret => .ret
  | .magic dst => .magic dst.bare
  | .write src _ => .write src.bare .void
  | .read dst _ => .read dst.bare .void

def Quad.bare (quad : Quad) : Quad := ⟨quad.labels, quad.instr.bare⟩

theorem Operand.piece_bare (operand : Operand) : operand.bare.piece.text = operand.piece.text := by
  cases operand with
  | literal value width =>
      cases value with
      | int value => rfl
      | bool value => cases value <;> rfl
      | string id => rfl
  | slot place => rfl
  | temp place => rfl

theorem Operand.bare_bare (operand : Operand) : operand.bare.bare = operand.bare := by
  cases operand with
  | literal value width => cases value <;> rfl
  | slot place => rfl
  | temp place => rfl

theorem Operand.names_bare (operand : Operand) : operand.bare.names = operand.names := by
  cases operand <;> rfl

def Instr.texts (instr : Instr) : List String := instr.words.map Piece.text

theorem Instr.texts_bare (instr : Instr) : instr.bare.texts = instr.texts := by
  cases instr <;> simp only [bare, texts, words, List.map_cons, Operand.piece_bare]

def readNumber (digits : List Char) : Nat := Nat.ofDigitChars 10 digits 0

def readInteger : List Char → Int
  | '-' :: digits => -readNumber digits
  | digits => readNumber digits

def numberOf (stem word : String) : Nat := readNumber (word.toList.drop stem.toList.length)

theorem read_number_to_string (n : Nat) : readNumber (toString n).toList = n := by
  rw [readNumber, Nat.toString_eq_repr, Nat.toList_repr, Nat.ofDigitChars_ten_toDigits]

theorem number_of_number (stem : String) (n : Nat) : numberOf stem (stem ++ toString n) = n := by
  rw [numberOf, String.toList_append, List.drop_left, read_number_to_string]

theorem number_head (n : Nat) : ∃ first tail, (toString n).toList = first :: tail ∧ first.isDigit = true := by
  cases chars : (toString n).toList with
  | nil =>
      rw [Nat.toString_eq_repr, Nat.toList_repr] at chars
      exact absurd chars Nat.toDigits_ne_nil
  | cons first tail =>
      exact ⟨first, tail, rfl, number_digits n first (chars ▸ List.mem_cons_self)⟩

theorem integer_cases (n : Int) : ((toString n).toList = (toString n.toNat).toList ∧ 0 ≤ n) ∨
    ((toString n).toList = '-' :: (toString (-n).toNat).toList ∧ n < 0) := by
  rw [Int.toString_eq_repr, Int.repr_eq_if]
  by_cases positive : 0 ≤ n
  · rw [if_pos positive]
    exact .inl ⟨rfl, positive⟩
  · rw [if_neg positive]
    exact .inr ⟨String.toList_append, by omega⟩

theorem read_integer_to_string (n : Int) : readInteger (toString n).toList = n := by
  rcases integer_cases n with ⟨chars, positive⟩ | ⟨chars, negative⟩
  · obtain ⟨first, tail, digits, digit⟩ := number_head n.toNat
    have unsigned : readInteger (toString n.toNat).toList = readNumber (toString n.toNat).toList := by
      rw [digits, readInteger]
      intro rest signed
      obtain rfl := (List.cons.inj signed).1
      cases digit
    rw [chars, unsigned, read_number_to_string]
    omega
  · rw [chars, readInteger, read_number_to_string]
    omega

def UnaryOp.ofMnemonic (word : String) : Option UnaryOp := [.neg, .not].find? fun op => op.mnemonic == word

def BinaryOp.ofMnemonic (word : String) : Option BinaryOp := all.find? fun op => op.mnemonic == word

theorem UnaryOp.of_mnemonic_mnemonic (op : UnaryOp) : ofMnemonic op.mnemonic = some op := by
  cases op <;> decide

theorem BinaryOp.of_mnemonic_mnemonic (op : BinaryOp) : ofMnemonic op.mnemonic = some op := by
  cases op <;> decide

def isOperandHead (c : Char) : Bool := c == '[' || c == 's' || c == '-' || c.isDigit

def Operand.ofBracketed (name : String) : Operand :=
  if isNumbered "tmp" name then .temp ⟨.ofNat (numberOf "tmp" name), 0⟩ else .slot ⟨.first, name, 0⟩

def Operand.ofWord (word : String) : Operand :=
  match word.toList with
  | '[' :: inner => ofBracketed (String.ofList inner.dropLast)
  | 's' :: _ => .literal (.string (.ofNat (numberOf "str_" word))) 0
  | chars => .literal (.int (.ofInt (readInteger chars))) 0

theorem Handle.string_name_chars (id : Handle .string) :
    id.stringName.toList = 's' :: ("tr_".toList ++ (toString id.index).toList) := String.toList_append

namespace Operand

theorem of_word_bracketed (name : String) : ofWord ("[" ++ name ++ "]") = ofBracketed name := by
  have chars : ("[" ++ name ++ "]").toList = '[' :: (name.toList ++ [']']) := by simp
  rw [ofWord, chars]
  simp

theorem of_word_string (id : Handle .string) : ofWord id.stringName = .literal (.string id) 0 := by
  have number : numberOf "str_" id.stringName = id.index := number_of_number "str_" id.index
  rw [ofWord, id.string_name_chars]
  simp only [number, Handle.of_nat_index]

theorem of_word_other (word : String) (first : Char) (tail : List Char) (chars : word.toList = first :: tail)
    (bracket : first ≠ '[') (pooled : first ≠ 's') :
    ofWord word = .literal (.int (.ofInt (readInteger word.toList))) 0 := by
  unfold ofWord
  split
  · rename_i opened
    exact absurd (List.cons.inj (chars.symm.trans opened)).1 bracket
  · rename_i opened
    exact absurd (List.cons.inj (chars.symm.trans opened)).1 pooled
  · rfl

theorem of_word_integer (value : Int64) : ofWord (toString value.toInt) = .literal (.int value) 0 := by
  have known : ofWord (toString value.toInt) =
      .literal (.int (.ofInt (readInteger (toString value.toInt).toList))) 0 := by
    rcases integer_cases value.toInt with ⟨chars, _⟩ | ⟨chars, _⟩
    · obtain ⟨first, tail, digits, digit⟩ := number_head value.toInt.toNat
      apply of_word_other _ first tail (chars.trans digits)
      · rintro rfl
        cases digit
      · rintro rfl
        cases digit
    · exact of_word_other _ '-' _ chars (by decide) (by decide)
  rw [known, read_integer_to_string, Int64.ofInt_toInt]

theorem of_word_text (operand : Operand) (plain : ∀ name ∈ operand.names, isPlainName name = true) :
    ofWord operand.piece.text = operand.bare := by
  cases operand with
  | literal value width =>
      cases value with
      | int value => exact of_word_integer value
      | bool value =>
          rw [← piece_bare]
          exact of_word_integer _
      | string id => exact of_word_string id
  | slot place =>
      have named := plain place.name List.mem_cons_self
      simp only [isPlainName, Bool.and_eq_true, Bool.not_eq_true'] at named
      rw [piece, Piece.painted, of_word_bracketed, ofBracketed, if_neg (by simp [named.1.2])]
      rfl
  | temp place =>
      have numbered : isNumbered "tmp" place.id.tempName = true := is_numbered_number "tmp" place.id.index
      have number : numberOf "tmp" place.id.tempName = place.id.index := number_of_number "tmp" place.id.index
      rw [piece, Piece.painted, of_word_bracketed, ofBracketed, if_pos numbered, number, Handle.of_nat_index]
      rfl

theorem text_head (operand : Operand) :
    ∃ first tail, operand.piece.text.toList = first :: tail ∧ isOperandHead first = true := by
  have digits : ∀ n : Nat, ∃ first tail, (toString n).toList = first :: tail ∧ isOperandHead first = true := by
    intro n
    obtain ⟨first, tail, chars, digit⟩ := number_head n
    exact ⟨first, tail, chars, by simp [isOperandHead, digit]⟩
  have integers : ∀ n : Int, ∃ first tail, (toString n).toList = first :: tail ∧ isOperandHead first = true := by
    intro n
    rcases integer_cases n with ⟨chars, _⟩ | ⟨chars, _⟩
    · rw [chars]
      exact digits n.toNat
    · exact ⟨'-', _, chars, by decide⟩
  cases operand with
  | literal value width =>
      cases value with
      | int value => exact integers value.toInt
      | bool value =>
          rw [← piece_bare]
          exact integers _
      | string id => exact ⟨'s', _, id.string_name_chars, by decide⟩
  | slot place => exact ⟨'[', (place.name ++ "]").toList, by simp [piece, Piece.painted], by decide⟩
  | temp place => exact ⟨'[', (place.id.tempName ++ "]").toList, by simp [piece, Piece.painted], by decide⟩

theorem text_ne (operand : Operand) (word : String) (other : word.toList.head?.all isOperandHead = false) :
    operand.piece.text ≠ word := by
  rintro rfl
  obtain ⟨first, tail, chars, known⟩ := operand.text_head
  simp [chars, known] at other

end Operand

namespace Instr

def ofWords : List String → Option Instr
  | [dst, ":=", "MAGIC"] => some (.magic (.ofWord dst))
  | [dst, ":=", src] => some (.assign (.ofWord dst) (.ofWord src))
  | [dst, ":=", op, src] => (UnaryOp.ofMnemonic op).map fun op => .unary op (.ofWord dst) (.ofWord src)
  | [dst, ":=", lhs, op, rhs] =>
      (BinaryOp.ofMnemonic op).map fun op => .binary op (.ofWord dst) (.ofWord lhs) (.ofWord rhs)
  | ["IFZ", cond, "GOTO", target] => some (.ifZero (.ofWord cond) (.ofNat (numberOf "lbl_" target)))
  | ["goto", target] => some (.goto (.ofNat (numberOf "lbl_" target)))
  | ["nop"] => some .nop
  | ["call", name] => some (.call .first name)
  | ["setarg", position, src] => some (.setArg (numberOf "" position) (.ofWord src))
  | ["getarg", position, dst] => some (.getArg (numberOf "" position) (.ofWord dst))
  | ["setret", src] => some (.setRet (.ofWord src))
  | ["getret", dst] => some (.getRet (.ofWord dst))
  | ["return"] => some .ret
  | ["WRITE", src] => some (.write (.ofWord src) .void)
  | ["READ", dst] => some (.read (.ofWord dst) .void)
  | _ => none

theorem of_words_words (instr : Instr) (plain : ∀ name ∈ instr.names, isPlainName name = true) :
    ofWords instr.texts = some instr.bare := by
  have operand := fun (operand : Operand) => operand.of_word_text
  have label : ∀ target : Handle .label, Handle.ofNat (numberOf "lbl_" target.labelName) = target := by
    intro target
    rw [Handle.labelName]
    exact (congrArg Handle.ofNat (number_of_number "lbl_" target.index)).trans target.of_nat_index
  have number : ∀ n : Nat, numberOf "" n.repr = n := read_number_to_string
  have apart : ∀ n : Nat, n.repr ≠ ":=" := by
    intro n same
    obtain ⟨first, tail, chars, digit⟩ := number_head n
    rw [Nat.toString_eq_repr, same] at chars
    obtain rfl := (List.cons.inj chars).1
    cases digit
  cases instr <;> simp only [names, List.forall_mem_append, List.forall_mem_cons] at plain
  case assign dst src =>
    have source := src.text_ne "MAGIC" (by decide)
    rw [bare, ← operand dst plain.1, ← operand src plain.2]
    simp [texts, words, ofWords, becomes, Piece.painted]
  case unary op dst src =>
    rw [bare, ← operand dst plain.1, ← operand src plain.2]
    simp [texts, words, ofWords, becomes, keyword, Piece.painted, op.of_mnemonic_mnemonic]
  case binary op dst lhs rhs =>
    rw [bare, ← operand dst plain.1.1, ← operand lhs plain.1.2, ← operand rhs plain.2]
    simp [texts, words, ofWords, becomes, keyword, Piece.painted, op.of_mnemonic_mnemonic]
  case ifZero cond target =>
    have first := cond.text_ne ":=" (by decide)
    rw [bare, ← operand cond plain]
    simp [texts, words, ofWords, keyword, Instr.target, Piece.painted, label]
  case goto target => simp [texts, words, ofWords, bare, keyword, Instr.target, Piece.painted, label]
  case nop => simp [texts, words, ofWords, bare, keyword, Piece.painted]
  case call callee name => simp [texts, words, ofWords, bare, keyword, Piece.painted]
  case setArg n src =>
    rw [bare, ← operand src plain]
    simp [texts, words, ofWords, keyword, position, Piece.painted, apart, number]
  case getArg n dst =>
    rw [bare, ← operand dst plain]
    simp [texts, words, ofWords, keyword, position, Piece.painted, apart, number]
  case setRet src =>
    rw [bare, ← operand src plain]
    simp [texts, words, ofWords, keyword, Piece.painted]
  case getRet dst =>
    rw [bare, ← operand dst plain]
    simp [texts, words, ofWords, keyword, Piece.painted]
  case ret => simp [texts, words, ofWords, bare, keyword, Piece.painted]
  case magic dst =>
    rw [bare, ← operand dst plain]
    simp [texts, words, ofWords, becomes, keyword, Piece.painted]
  case write src type =>
    rw [bare, ← operand src plain]
    simp [texts, words, ofWords, keyword, Piece.painted]
  case read dst type =>
    rw [bare, ← operand dst plain]
    simp [texts, words, ofWords, keyword, Piece.painted]

theorem bare_bare (instr : Instr) : instr.bare.bare = instr.bare := by
  cases instr <;> simp only [bare, Operand.bare_bare]

theorem names_bare (instr : Instr) : instr.bare.names = instr.names := by
  cases instr <;> simp only [bare, names, Operand.names_bare]

theorem words_head (instr : Instr) : ∃ first tail rest,
    instr.texts.map String.toList = (first :: tail) :: rest ∧ first ≠ 'l' ∧ first ≠ ' ' := by
  have operand : ∀ operand : Operand, ∃ first tail,
      operand.piece.text.toList = first :: tail ∧ first ≠ 'l' ∧ first ≠ ' ' := by
    intro operand
    obtain ⟨first, tail, chars, known⟩ := operand.text_head
    refine ⟨first, tail, chars, ?_, ?_⟩
    · rintro rfl
      cases known
    · rintro rfl
      cases known
  cases instr
  case assign dst src | unary op dst src | binary op dst lhs rhs | magic dst =>
    obtain ⟨first, tail, chars, apart⟩ := operand dst
    exact ⟨first, tail, _, congrArg (· :: _) chars, apart⟩
  all_goals exact ⟨_, _, _, rfl, by decide, by decide⟩

end Instr

end ThreeAddress
