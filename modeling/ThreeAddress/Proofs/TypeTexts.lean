import ThreeAddress.DataType

set_option autoImplicit false

namespace ThreeAddress.DataType

def following : List DataType → List Char
  | [] => []
  | type :: tail => ',' :: ' ' :: (type.text.toList ++ following tail)

theorem chars_parameters (first : DataType) (tail : List DataType) :
    (", ".intercalate (texts (first :: tail))).toList = first.text.toList ++ following tail := by
  induction tail generalizing first with
  | nil => simp [texts, following]
  | cons second rest ih =>
      rw [texts, texts, String.intercalate_cons_cons, String.toList_append, String.toList_append, ← texts, ih,
        following, List.append_assoc]
      rfl

theorem chars_function (params : List DataType) (result : DataType) :
    (function params result).text.toList =
      '(' :: ((", ".intercalate (texts params)).toList ++ ')' :: ([' ', '-', '>', ' '] ++ result.text.toList)) := by
  simp [text]

theorem head_ne_close (type : DataType) (x y : List Char) : ')' :: x ≠ type.text.toList ++ y := by
  cases type with
  | int | bool | string | void => simp [text]
  | function params result => simp [chars_function]

mutual

theorem text_cut (a b : DataType) (x y : List Char) (same : a.text.toList ++ x = b.text.toList ++ y) :
    a = b ∧ x = y := by
  cases a with
  | int | bool | string | void => cases b <;> simp_all [text]
  | function params result =>
      cases b with
      | int | bool | string | void => simp [text] at same
      | function params' result' =>
          simp only [chars_function, List.cons_append, List.append_assoc, List.cons.injEq, true_and] at same
          obtain ⟨rfl, rest⟩ := parameters_cut params params' _ _ same
          obtain ⟨rfl, rfl⟩ := text_cut result result' x y (by simpa using rest)
          exact ⟨rfl, rfl⟩

theorem parameters_cut (as bs : List DataType) (x y : List Char)
    (same : (", ".intercalate (texts as)).toList ++ ')' :: x = (", ".intercalate (texts bs)).toList ++ ')' :: y) :
    as = bs ∧ x = y := by
  cases as with
  | nil =>
      cases bs with
      | nil => simpa [texts] using same
      | cons b bs =>
          rw [chars_parameters, List.append_assoc] at same
          exact absurd same (head_ne_close b _ _)
  | cons a as =>
      rw [chars_parameters, List.append_assoc] at same
      cases bs with
      | nil => exact absurd same.symm (head_ne_close a _ _)
      | cons b bs =>
          rw [chars_parameters, List.append_assoc] at same
          obtain ⟨rfl, rest⟩ := text_cut a b _ _ same
          obtain ⟨rfl, rfl⟩ := following_cut as bs x y rest
          exact ⟨rfl, rfl⟩

theorem following_cut (as bs : List DataType) (x y : List Char)
    (same : following as ++ ')' :: x = following bs ++ ')' :: y) : as = bs ∧ x = y := by
  cases as with
  | nil =>
      cases bs with
      | nil => simpa [following] using same
      | cons b bs => simp [following] at same
  | cons a as =>
      cases bs with
      | nil => simp [following] at same
      | cons b bs =>
          simp only [following, List.cons_append, List.cons.injEq, true_and, List.append_assoc] at same
          obtain ⟨rfl, rest⟩ := text_cut a b _ _ same
          obtain ⟨rfl, rfl⟩ := following_cut as bs x y rest
          exact ⟨rfl, rfl⟩

end

theorem text_self_delimiting (a b : DataType) :
    (a.text = b.text → a = b) ∧ (a.text.toList <+: b.text.toList → a.text = b.text) := by
  constructor
  · intro same
    exact (text_cut a b [] [] (by rw [same])).1
  · rintro ⟨rest, begins⟩
    obtain ⟨rfl, _⟩ := text_cut a b rest [] (by rw [begins, List.append_nil])
    rfl

example : (function [function [int] bool, void] (function [] int)).text = "((int) -> bool, void) -> () -> int" := by
  decide

end ThreeAddress.DataType
