import Std.Data.TreeSet.Lemmas

set_option autoImplicit false

/-!
# The first of each key

`distinctBy key` keeps, of all elements with one key, the first.  The order of those that stay is
kept, no key occurs twice among them, and no key is lost.  The keys seen so far are held in a search
tree, so that long lists stay cheap; `distinctBy_cons` says what happens without mentioning it, and
everything else follows from there.
-/

namespace Soundalike

variable {α β : Type} [Ord β]

/-- Drops every element whose key was seen before, be it in `seen` or earlier in the list. -/
def distinctFrom (key : α → β) (seen : Std.TreeSet β) : List α → List α
  | [] => []
  | x :: xs =>
    if key x ∈ seen then distinctFrom key seen xs
    else x :: distinctFrom key (seen.insert (key x)) xs

/-- Drops every element whose key occurred before it. -/
def distinctBy (key : α → β) (xs : List α) : List α := distinctFrom key ∅ xs

/-- Drops every element that occurred before. -/
def distinct (xs : List β) : List β := distinctBy id xs

variable [DecidableEq β] [Std.TransOrd β] [Std.LawfulEqOrd β]

/-! ## The keys seen so far -/

omit [DecidableEq β] [Std.LawfulEqOrd β] in
/-- Only what the set holds counts, not how it came about. -/
theorem distinctFrom_congr (key : α → β) {first second : Std.TreeSet β}
    (h : ∀ k, k ∈ first ↔ k ∈ second) (xs : List α) :
    distinctFrom key first xs = distinctFrom key second xs := by
  induction xs generalizing first second with
  | nil => rfl
  | cons x xs ih =>
    have hinsert : ∀ k, k ∈ first.insert (key x) ↔ k ∈ second.insert (key x) := fun k => by
      simp [Std.TreeSet.mem_insert, h]
    by_cases hx : key x ∈ first
    · simp [distinctFrom, hx, (h _).1 hx, ih h]
    · have hx' : key x ∉ second := fun e => hx ((h _).2 e)
      simp [distinctFrom, hx, hx', ih hinsert]

/-- A key that was seen before is a key that is dropped. -/
theorem distinctFrom_insert (key : α → β) (seen : Std.TreeSet β) (k : β) (xs : List α) :
    distinctFrom key (seen.insert k) xs = (distinctFrom key seen xs).filter (key · ≠ k) := by
  induction xs generalizing seen with
  | nil => rfl
  | cons x xs ih =>
    by_cases hx : key x ∈ seen
    · simp [distinctFrom, hx, ih]
    · by_cases hk : key x = k
      · have htwice : distinctFrom key ((seen.insert k).insert k) xs =
            distinctFrom key (seen.insert k) xs :=
          distinctFrom_congr key (fun j => by simp [Std.TreeSet.mem_insert]) xs
        have hfilter := ih (seen.insert k)
        rw [htwice] at hfilter
        rw [distinctFrom, if_pos (by simp [hk]), distinctFrom, if_neg hx, hk,
          List.filter_cons_of_neg (by simp [hk]), ← hfilter]
      · have hswap : distinctFrom key ((seen.insert k).insert (key x)) xs =
            distinctFrom key ((seen.insert (key x)).insert k) xs :=
          distinctFrom_congr key (fun j => by
            simp only [Std.TreeSet.mem_insert, Std.compare_eq_iff_eq]
            exact or_left_comm) xs
        have hnot : key x ∉ seen.insert k := by
          simp only [Std.TreeSet.mem_insert, Std.compare_eq_iff_eq, not_or]
          exact ⟨fun e => hk e.symm, hx⟩
        rw [distinctFrom, if_neg hnot, distinctFrom, if_neg hx,
          List.filter_cons_of_pos (by simpa using hk), hswap, ih]

/-! ## The elements that stay -/

omit [DecidableEq β] [Std.TransOrd β] [Std.LawfulEqOrd β] in
@[simp] theorem distinctBy_nil (key : α → β) : distinctBy key ([] : List α) = [] := rfl

/-- The first element stays, and of the others those with another key. -/
theorem distinctBy_cons (key : α → β) (x : α) (xs : List α) :
    distinctBy key (x :: xs) = x :: (distinctBy key xs).filter (key · ≠ key x) := by
  rw [distinctBy, distinctFrom, if_neg (by simp), distinctFrom_insert, ← distinctBy]

theorem distinctBy_sublist (key : α → β) (xs : List α) : (distinctBy key xs).Sublist xs := by
  induction xs with
  | nil => exact List.Sublist.slnil
  | cons x xs ih =>
    rw [distinctBy_cons]
    exact (List.filter_sublist.trans ih).cons_cons x

/-- No key occurs twice. -/
theorem nodup_map_distinctBy (key : α → β) (xs : List α) :
    ((distinctBy key xs).map key).Nodup := by
  induction xs with
  | nil => simp
  | cons x xs ih =>
    rw [distinctBy_cons, List.map_cons, List.nodup_cons]
    refine ⟨?_, ih.sublist (List.filter_sublist.map key)⟩
    intro h
    obtain ⟨y, hy, hkey⟩ := List.mem_map.1 h
    simpa [hkey] using (List.mem_filter.1 hy).2

/-- Every key has a representative. -/
theorem exists_mem_distinctBy (key : α → β) {xs : List α} {x : α} (h : x ∈ xs) :
    ∃ y ∈ distinctBy key xs, key y = key x := by
  induction xs with
  | nil => simp at h
  | cons z zs ih =>
    rw [distinctBy_cons]
    by_cases hz : key z = key x
    · exact ⟨z, List.mem_cons_self, hz⟩
    · rcases List.mem_cons.1 h with rfl | h
      · exact absurd rfl hz
      · obtain ⟨y, hy, hkey⟩ := ih h
        refine ⟨y, List.mem_cons_of_mem _ (List.mem_filter.2 ⟨hy, ?_⟩), hkey⟩
        simpa [hkey] using fun e => hz e.symm

/-- Of the elements with one key the first is found, whether or not the others were dropped. -/
theorem find?_distinctBy (key : α → β) (k : β) (xs : List α) :
    (distinctBy key xs).find? (key · = k) = xs.find? (key · = k) := by
  induction xs with
  | nil => rfl
  | cons x xs ih =>
    rw [distinctBy_cons]
    cases hx : decide (key x = k) with
    | true => rw [List.find?_cons, List.find?_cons, hx]
    | false =>
      have hother : ∀ y, key y = k → key y ≠ key x := by
        intro y hy heq
        exact of_decide_eq_false hx (heq.symm.trans hy)
      have hkept : (distinctBy key xs).find? (fun y => key y ≠ key x ∧ key y = k) =
          (distinctBy key xs).find? (key · = k) := by
        congr 1
        funext y
        exact decide_eq_decide.mpr (and_iff_right_of_imp (hother y))
      rw [List.find?_cons, List.find?_cons, hx, ← ih, ← hkept]
      simp only [List.find?_filter, decide_eq_true_eq]

@[simp] theorem distinctBy_eq_nil_iff (key : α → β) (xs : List α) :
    distinctBy key xs = [] ↔ xs = [] := by
  cases xs <;> simp [distinctBy_cons]

/-- The first element always stays. -/
theorem head?_distinctBy (key : α → β) (xs : List α) : (distinctBy key xs).head? = xs.head? := by
  cases xs <;> simp [distinctBy_cons]

/-- The keys of the elements that stay are the keys of all, each once. -/
theorem map_distinctBy (key : α → β) (xs : List α) :
    (distinctBy key xs).map key = distinct (xs.map key) := by
  rw [distinct]
  induction xs with
  | nil => rfl
  | cons x xs ih =>
    rw [distinctBy_cons, List.map_cons, List.map_cons, distinctBy_cons, ← ih, List.filter_map]
    rfl

theorem distinct_cons (x : β) (xs : List β) :
    distinct (x :: xs) = x :: (distinct xs).filter (· ≠ x) :=
  distinctBy_cons id x xs

/-- A last element stays where it did not occur before. -/
theorem distinct_concat (xs : List β) (x : β) :
    distinct (xs ++ [x]) = if x ∈ xs then distinct xs else distinct xs ++ [x] := by
  induction xs with
  | nil => rfl
  | cons y ys ih =>
    rw [List.cons_append, distinct_cons, distinct_cons, ih]
    by_cases hys : x ∈ ys
    · rw [if_pos hys, if_pos (List.mem_cons_of_mem y hys)]
    · rw [if_neg hys, List.filter_append]
      by_cases hy : x = y
      · simp [hy]
      · simp [hy, hys]

/-- Where nothing occurs twice, everything stays. -/
theorem distinct_of_nodup {xs : List β} (h : xs.Nodup) : distinct xs = xs := by
  induction xs with
  | nil => rfl
  | cons x xs ih =>
    obtain ⟨hx, hxs⟩ := List.nodup_cons.mp h
    rw [distinct_cons, ih hxs, List.filter_eq_self.mpr]
    intro y hy
    exact decide_eq_true fun heq => hx (heq ▸ hy)

theorem nodup_distinct (xs : List β) : (distinct xs).Nodup := by
  simpa [distinct] using nodup_map_distinctBy id xs

theorem mem_distinct {xs : List β} {x : β} : x ∈ distinct xs ↔ x ∈ xs := by
  refine ⟨fun h => (distinctBy_sublist id xs).subset h, fun h => ?_⟩
  obtain ⟨y, hy, hkey⟩ := exists_mem_distinctBy id h
  exact (show y = x from hkey) ▸ hy

@[simp] theorem distinct_distinct (xs : List β) : distinct (distinct xs) = distinct xs :=
  distinct_of_nodup (nodup_distinct xs)

theorem distinct_replicate_append (n : Nat) (x : β) (xs : List β) :
    distinct (List.replicate (n + 1) x ++ xs) = x :: (distinct xs).filter (· ≠ x) := by
  induction n with
  | zero => exact distinct_cons x xs
  | succ n ih =>
    rw [List.replicate_succ, List.cons_append, distinct_cons, ih,
      List.filter_cons_of_neg (by simp), List.filter_filter]
    simp only [Bool.and_self]

/-- Saying everything several times in a row changes nothing. -/
theorem distinct_flatMap_replicate {n : Nat} (h : n ≠ 0) (xs : List β) :
    distinct (xs.flatMap (List.replicate n)) = distinct xs := by
  obtain ⟨m, rfl⟩ := Nat.exists_eq_succ_of_ne_zero h
  induction xs with
  | nil => rfl
  | cons x xs ih => rw [List.flatMap_cons, distinct_replicate_append, ih, distinct_cons]

/-! ## Looking up keys -/

omit [Ord β] [Std.TransOrd β] [Std.LawfulEqOrd β] in
/-- Leaving out the pairs with another key changes nothing. -/
theorem lookup_filter_ne {pairs : List (β × α)} {key other : β} (h : key ≠ other) :
    (pairs.filter (·.1 ≠ other)).lookup key = pairs.lookup key := by
  induction pairs with
  | nil => rfl
  | cons pair rest ih =>
    by_cases hpair : pair.1 = other
    · have hkey : (key == pair.1) = false := beq_eq_false_iff_ne.mpr (hpair ▸ h)
      rw [List.filter_cons_of_neg (by simpa using hpair), ih, List.lookup_cons, hkey]
    · rw [List.filter_cons_of_pos (by simpa using hpair), List.lookup_cons, List.lookup_cons, ih]

/-- A key is found where it stands first, whether or not it is given again later. -/
theorem lookup_distinctBy_fst (pairs : List (β × α)) (key : β) :
    (distinctBy Prod.fst pairs).lookup key = pairs.lookup key := by
  induction pairs with
  | nil => rfl
  | cons pair rest ih =>
    rw [distinctBy_cons, List.lookup_cons, List.lookup_cons]
    cases hpair : key == pair.1 with
    | true => rfl
    | false =>
      dsimp only
      rw [lookup_filter_ne (beq_eq_false_iff_ne.mp hpair), ih]

end Soundalike
