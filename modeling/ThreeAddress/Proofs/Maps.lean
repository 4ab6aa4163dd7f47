import ThreeAddress.HandleMap
import ThreeAddress.Proofs.Handles

set_option autoImplicit false

namespace ThreeAddress

namespace Handle

variable {k : Kind}

def raise (h : Handle k) (n : Nat) : Handle k := .ofNat (h.index + n)

@[simp] theorem raise_zero (h : Handle k) : h.raise 0 = h := h.of_nat_index

theorem first_raise (n : Nat) : (first : Handle k).raise n = .ofNat n := congrArg ofNat (Nat.zero_add n)

theorem index_raise (h : Handle k) (n : Nat) (fits : h.index + n < 2 ^ 32) : (h.raise n).index = h.index + n :=
  index_of_nat_of_lt _ fits

theorem raise_raise (h : Handle k) (a b : Nat) : (h.raise a).raise b = h.raise (a + b) := by
  apply index_injective
  simp only [raise, index_of_nat]
  omega

theorem next_eq_raise (h : Handle k) : h.next = h.raise 1 := by
  apply index_injective
  rw [index_next, raise, index_of_nat]

end Handle

namespace HandleMap

variable {k : Handle.Kind} {α : Type}

def insertAll (map : HandleMap k α) (first : Handle k) : List α → HandleMap k α
  | [] => map
  | value :: tail => (map.insert first value).insertAll first.next tail

theorem insert_all_append (map : HandleMap k α) (first : Handle k) (front back : List α) :
    map.insertAll first (front ++ back) =
      (map.insertAll first front).insertAll (first.raise front.length) back := by
  induction front generalizing map first with
  | nil => rw [List.length_nil, Handle.raise_zero]; rfl
  | cons value tail ih =>
      rw [List.cons_append, insertAll, ih, insertAll, Handle.next_eq_raise, Handle.raise_raise,
        List.length_cons, Nat.add_comm]

theorem get?_insert_all (map : HandleMap k α) (first query : Handle k) (values : List α)
    (fits : first.index + values.length ≤ 2 ^ 32) :
    (map.insertAll first values).get? query =
      if query.index < first.index then map.get? query
      else (values[query.index - first.index]?).or (map.get? query) := by
  induction values generalizing map first with
  | nil => simp [insertAll]
  | cons value tail ih =>
      rw [List.length_cons] at fits
      have following := first.index_next
      rw [insertAll, ih _ _ (by omega), get?_insert]
      rcases Nat.lt_trichotomy query.index first.index with before | same | after
      · have apart : query ≠ first := fun equal => by rw [equal] at before; omega
        by_cases wrapped : query.index < first.next.index
        · rw [if_pos wrapped, if_neg apart, if_pos before]
        · have done : tail = [] := List.length_eq_zero_iff.mp (by omega)
          simp [done, apart, before]
      · have equal : query = first := Handle.index_injective _ _ same
        subst equal
        by_cases further : query.index < query.next.index
        · simp [further]
        · have done : tail = [] := List.length_eq_zero_iff.mp (by omega)
          simp [done]
      · have apart : query ≠ first := fun equal => by rw [equal] at after; omega
        have later : ¬ query.index < first.next.index := by omega
        have counted : query.index - first.index = query.index - first.next.index + 1 := by
          have bound := query.index_lt
          omega
        rw [if_neg later, if_neg apart, if_neg (by omega), counted, List.getElem?_cons_succ]

theorem get?_insert_all_empty (query : Handle k) (values : List α) (fits : values.length ≤ 2 ^ 32) :
    (empty.insertAll .first values).get? query = values[query.index]? := by
  have start : (Handle.first : Handle k).index = 0 := rfl
  have missing : (empty : HandleMap k α).get? query = none := rfl
  rw [get?_insert_all _ _ _ _ (by rw [start]; omega), start, if_neg (Nat.not_lt_zero _), missing, Option.or_none,
    Nat.sub_zero]

def Ascending (map : HandleMap k α) : Prop :=
  map.entries.Pairwise fun earlier later => earlier.1.index < later.1.index

theorem mem_insert_entry (h : Handle k) (value : α) (entries : List (Handle k × α)) (entry : Handle k × α)
    (member : entry ∈ insertEntry h value entries) : entry = (h, value) ∨ entry ∈ entries := by
  induction entries with
  | nil => exact .inl (List.mem_singleton.mp member)
  | cons first tail ih =>
      rw [insertEntry] at member
      split at member
      · exact List.mem_cons.mp member
      · split at member
        · exact (List.mem_cons.mp member).imp_right (List.mem_cons_of_mem first)
        · rcases List.mem_cons.mp member with here | later
          · exact .inr (here ▸ List.mem_cons_self)
          · exact (ih later).imp_right (List.mem_cons_of_mem first)

theorem Ascending.insert (map : HandleMap k α) (ascending : map.Ascending) (h : Handle k) (value : α) :
    (map.insert h value).Ascending := by
  obtain ⟨entries⟩ := map
  change (insertEntry h value entries).Pairwise _
  change entries.Pairwise _ at ascending
  induction entries with
  | nil => exact List.pairwise_singleton _ _
  | cons first tail ih =>
      obtain ⟨above, rest⟩ := List.pairwise_cons.mp ascending
      rw [insertEntry]
      by_cases before : h.val < first.1.val
      · rw [if_pos before, List.pairwise_cons]
        refine ⟨?_, ascending⟩
        intro entry member
        rcases List.mem_cons.mp member with rfl | later
        · exact before
        · exact Nat.lt_trans before (above entry later)
      · by_cases same : h = first.1
        · rw [if_neg before, if_pos same, List.pairwise_cons]
          exact ⟨fun entry member => same ▸ above entry member, rest⟩
        · rw [if_neg before, if_neg same, List.pairwise_cons]
          refine ⟨?_, ih rest⟩
          intro entry member
          rcases mem_insert_entry h value tail entry member with rfl | later
          · have apart : h.index ≠ first.1.index := fun equal => same (Handle.index_injective _ _ equal)
            have notBefore : ¬ h.index < first.1.index := before
            change first.1.index < h.index
            omega
          · exact above entry later

theorem insert_entry_last (h : Handle k) (value : α) (entries : List (Handle k × α))
    (last : ∀ entry ∈ entries, entry.1.index < h.index) :
    insertEntry h value entries = entries ++ [(h, value)] := by
  induction entries with
  | nil => rfl
  | cons first tail ih =>
      obtain ⟨below, rest⟩ := List.forall_mem_cons.mp last
      have notBefore : ¬ h.val < first.1.val := Nat.lt_asymm below
      have apart : h ≠ first.1 := fun equal => Nat.lt_irrefl _ (equal ▸ below)
      rw [insertEntry, if_neg notBefore, if_neg apart, ih rest, List.cons_append]

theorem entries_insert_all (map : HandleMap k α) (first : Handle k) (values : List α)
    (fits : first.index + values.length ≤ 2 ^ 32) (last : ∀ entry ∈ map.entries, entry.1.index < first.index) :
    (map.insertAll first values).entries = map.entries ++ values.mapIdx fun i value => (first.raise i, value) := by
  induction values generalizing map first with
  | nil => rw [List.mapIdx_nil, List.append_nil]; rfl
  | cons value tail ih =>
      have entered : (map.insert first value).entries = map.entries ++ [(first, value)] :=
        insert_entry_last first value map.entries last
      have shifted : ∀ i, first.next.raise i = first.raise (i + 1) := by
        intro i
        rw [Handle.next_eq_raise, Handle.raise_raise, Nat.add_comm]
      rw [List.mapIdx_cons, Handle.raise_zero, insertAll]
      simp only [← shifted]
      rw [List.length_cons] at fits
      cases tail with
      | nil => exact entered
      | cons second rest =>
          rw [List.length_cons] at fits
          have following : first.next.index = first.index + 1 := by
            rw [Handle.index_next, Nat.mod_eq_of_lt (by omega)]
          rw [ih _ _ (by rw [List.length_cons]; omega) ?_, entered, List.append_assoc, List.singleton_append]
          intro entry member
          rw [entered] at member
          rcases List.mem_append.mp member with old | fresh
          · have below := last entry old
            omega
          · rw [List.mem_singleton.mp fresh, following]
            exact Nat.lt_succ_self _

theorem entries_insert_all_empty (values : List α) (fits : values.length ≤ 2 ^ 32) :
    (empty.insertAll (.first : Handle k) values).entries = values.mapIdx fun i value => (.ofNat i, value) := by
  have start : (Handle.first : Handle k).index = 0 := rfl
  rw [entries_insert_all empty .first values (by rw [start]; omega) (fun _ member => absurd member List.not_mem_nil)]
  simp only [Handle.first_raise]
  rfl

theorem lookup_before (h : Handle k) (entries : List (Handle k × α))
    (above : ∀ entry ∈ entries, h.index < entry.1.index) : lookup h entries = none := by
  induction entries with
  | nil => rfl
  | cons first tail ih =>
      obtain ⟨below, rest⟩ := List.forall_mem_cons.mp above
      have apart : h ≠ first.1 := fun equal => Nat.lt_irrefl _ (equal ▸ below)
      rw [lookup, if_neg apart, ih rest]

theorem lookup_head_ne (first other : Handle k × α) (tail rest : List (Handle k × α))
    (below : first.1.index < other.1.index) (above : ∀ entry ∈ rest, other.1.index < entry.1.index) :
    lookup first.1 (first :: tail) ≠ lookup first.1 (other :: rest) := by
  have missing : lookup first.1 (other :: rest) = none := by
    apply lookup_before
    intro later member
    rcases List.mem_cons.mp member with rfl | further
    · exact below
    · exact Nat.lt_trans below (above later further)
  rw [missing]
  simp [lookup]

theorem Ascending.ext {a b : HandleMap k α} (first : a.Ascending) (second : b.Ascending)
    (agree : ∀ h, a.get? h = b.get? h) : a = b := by
  obtain ⟨entries⟩ := a
  obtain ⟨others⟩ := b
  change ∀ h, lookup h entries = lookup h others at agree
  change entries.Pairwise _ at first
  change others.Pairwise _ at second
  congr 1
  induction entries generalizing others with
  | nil =>
      cases others with
      | nil => rfl
      | cons other rest =>
          have found := agree other.1
          simp [lookup] at found
  | cons entry tail ih =>
      cases others with
      | nil =>
          have found := agree entry.1
          simp [lookup] at found
      | cons other rest =>
          obtain ⟨above, tailAscends⟩ := List.pairwise_cons.mp first
          obtain ⟨otherAbove, restAscends⟩ := List.pairwise_cons.mp second
          have key : entry.1 = other.1 := by
            rcases Nat.lt_trichotomy entry.1.index other.1.index with below | same | beyond
            · exact absurd (agree entry.1) (lookup_head_ne entry other tail rest below otherAbove)
            · exact Handle.index_injective _ _ same
            · exact absurd (agree other.1).symm (lookup_head_ne other entry rest tail beyond above)
          have value : entry.2 = other.2 := by
            have found := agree entry.1
            simpa [lookup, key] using found
          have rests : tail = rest := by
            apply ih rest _ tailAscends restAscends
            intro h
            by_cases same : h = entry.1
            · rw [same, lookup_before entry.1 tail above, key, lookup_before other.1 rest otherAbove]
            · have found := agree h
              rwa [lookup, lookup, if_neg same, if_neg (key ▸ same)] at found
          rw [rests, Prod.ext key value]

theorem Ascending.insert_insert {map : HandleMap k α} (ascending : map.Ascending) (h : Handle k) (a b : α) :
    (map.insert h a).insert h b = map.insert h b := by
  apply Ascending.ext
  · exact (ascending.insert map h a).insert _ h b
  · exact ascending.insert map h b
  · intro query
    by_cases hit : query = h <;> simp [hit]

theorem Ascending.insert_comm {map : HandleMap k α} (ascending : map.Ascending) (g h : Handle k) (a b : α)
    (apart : g ≠ h) : (map.insert g a).insert h b = (map.insert h b).insert g a := by
  apply Ascending.ext
  · exact (ascending.insert map g a).insert _ h b
  · exact (ascending.insert map h b).insert _ g a
  · intro query
    by_cases hit : query = g
    · simp [hit, apart]
    · simp [hit]

theorem lookup_mem (h : Handle k) (value : α) (entries : List (Handle k × α)) (found : lookup h entries = some value) :
    value ∈ entries.map Prod.snd := by
  induction entries with
  | nil => cases found
  | cons entry tail ih =>
      obtain ⟨key, other⟩ := entry
      rw [lookup] at found
      by_cases same : h = key
      · rw [if_pos same] at found
        cases found
        exact List.mem_cons_self ..
      · rw [if_neg same] at found
        exact List.mem_cons_of_mem _ (ih found)

theorem lookup_of_mem (entries : List (Handle k × α))
    (ascending : entries.Pairwise fun earlier later => earlier.1.index < later.1.index) (entry : Handle k × α)
    (member : entry ∈ entries) : lookup entry.1 entries = some entry.2 := by
  induction entries with
  | nil => cases member
  | cons first tail ih =>
      obtain ⟨above, rest⟩ := List.pairwise_cons.mp ascending
      rcases List.mem_cons.mp member with rfl | later
      · simp [lookup]
      · have apart : entry.1 ≠ first.1 := fun equal => Nat.lt_irrefl _ (equal ▸ above entry later)
        rw [lookup, if_neg apart, ih rest later]

theorem Ascending.mem_values {map : HandleMap k α} (ascending : map.Ascending) (value : α) :
    value ∈ map.values ↔ ∃ h, map.get? h = some value := by
  constructor
  · intro member
    obtain ⟨entry, listed, rfl⟩ := List.mem_map.mp member
    exact ⟨entry.1, lookup_of_mem map.entries ascending entry listed⟩
  · rintro ⟨h, found⟩
    exact lookup_mem h value map.entries found

theorem size_insert (map : HandleMap k α) (h : Handle k) (value : α) (absent : map.get? h = none) :
    (map.insert h value).size = map.size + 1 := by
  obtain ⟨entries⟩ := map
  change (insertEntry h value entries).length = entries.length + 1
  change lookup h entries = none at absent
  induction entries with
  | nil => rfl
  | cons entry tail ih =>
      rw [insertEntry]
      by_cases before : h.val < entry.1.val
      · rw [if_pos before, List.length_cons]
      · by_cases same : h = entry.1
        · simp [lookup, same] at absent
        · rw [lookup, if_neg same] at absent
          rw [if_neg before, if_neg same, List.length_cons, ih absent, List.length_cons]

end HandleMap

end ThreeAddress
