import Mathlib.Algebra.BigOperators.Group.List.Basic
import Mathlib.Data.List.Nodup

/-!
# Tables keyed by a column

A `Table key` is a list of rows no two of which have the same key: a database
table with a primary key, or a hash map from keys to records that contain their
own key. `put` is an upsert, `update` changes a row only if it exists; both keep
the position of the row.
-/

set_option autoImplicit false

namespace SolanaBot.Library

/-- Rows with pairwise distinct keys. -/
structure Table {κ ν : Type} (key : ν → κ) where
  rows : List ν
  nodup : (rows.map key).Nodup

namespace Table

variable {κ ν : Type} {key : ν → κ}

/-- The table without rows. -/
def empty (key : ν → κ) : Table key := ⟨[], by simp⟩

/-- The empty table. -/
instance : Inhabited (Table key) := ⟨empty key⟩

/-- A table is its rows. -/
@[ext] theorem ext {t u : Table key} (h : t.rows = u.rows) : t = u := by
  cases t; cases u; cases h; rfl

variable [DecidableEq κ]

/-- The row with a given key. -/
def find? (t : Table key) (k : κ) : Option ν :=
  t.rows.find? fun r => key r = k

/-- Replace the row that has the key of `v`; a table without such a row is unchanged. -/
def update (t : Table key) (v : ν) : Table key where
  rows := t.rows.map fun r => if key r = key v then v else r
  nodup := by
    have h : (t.rows.map fun r => if key r = key v then v else r).map key = t.rows.map key := by
      rw [List.map_map]
      refine List.map_congr_left fun r _ => ?_
      by_cases hr : key r = key v <;> simp [hr]
    rw [h]
    exact t.nodup

/-- Insert a row, replacing the one that has its key. -/
def put (t : Table key) (v : ν) : Table key :=
  if h : key v ∈ t.rows.map key then t.update v
  else ⟨t.rows ++ [v], by
    rw [List.map_append, List.nodup_append]
    refine ⟨t.nodup, by simp, fun a ha b hb => ?_⟩
    rintro rfl
    simp only [List.map_cons, List.map_nil, List.mem_singleton] at hb
    exact h (hb ▸ ha)⟩

/-- Remove the row with a given key. -/
def erase (t : Table key) (k : κ) : Table key where
  rows := t.rows.filter fun r => key r ≠ k
  nodup := t.nodup.sublist (List.filter_sublist.map key)

/-- Nothing is found in an empty table. -/
@[simp] theorem find?_empty (k : κ) : (empty key).find? k = none := rfl

/-- A row is found under its key. -/
theorem find?_eq_some_iff (t : Table key) (k : κ) (v : ν) :
    t.find? k = some v ↔ v ∈ t.rows ∧ key v = k := by
  constructor
  · intro h
    exact ⟨List.mem_of_find?_eq_some h, by simpa using List.find?_some h⟩
  · rintro ⟨hv, hk⟩
    cases h : t.find? k with
    | none =>
        have hnone := List.find?_eq_none.mp h v hv
        simp [hk] at hnone
    | some w =>
        have hw : w ∈ t.rows ∧ key w = k :=
          ⟨List.mem_of_find?_eq_some h, by simpa using List.find?_some h⟩
        rw [List.inj_on_of_nodup_map t.nodup hw.1 hv (hw.2.trans hk.symm)]

/-- What is found has the key. -/
theorem find?_key {t : Table key} {k : κ} {v : ν} (h : t.find? k = some v) : key v = k :=
  ((find?_eq_some_iff t k v).mp h).2

/-- What is found is a row. -/
theorem find?_mem {t : Table key} {k : κ} {v : ν} (h : t.find? k = some v) : v ∈ t.rows :=
  ((find?_eq_some_iff t k v).mp h).1

/-- A row is found under its key. -/
theorem find?_of_mem {t : Table key} {v : ν} (h : v ∈ t.rows) : t.find? (key v) = some v :=
  (find?_eq_some_iff t _ v).mpr ⟨h, rfl⟩

/-- Nothing is found exactly if no row has the key. -/
theorem find?_eq_none_iff (t : Table key) (k : κ) :
    t.find? k = none ↔ k ∉ t.rows.map key := by
  simp [find?, List.find?_eq_none]

/-- An update replaces the row of its key, if there is one. -/
theorem find?_update (t : Table key) (v : ν) (k : κ) :
    (t.update v).find? k = if k = key v then (t.find? k).map (fun _ => v) else t.find? k := by
  unfold find? update
  dsimp only
  rw [List.find?_map]
  split
  · rename_i hk
    subst hk
    have hpred : ((fun r => decide (key r = key v)) ∘ fun r => if key r = key v then v else r) =
        fun r => decide (key r = key v) := by
      funext r
      by_cases hr : key r = key v <;> simp [hr]
    rw [hpred]
    cases h : t.rows.find? fun r => key r = key v with
    | none => rfl
    | some w =>
        have hw : key w = key v := by simpa using List.find?_some h
        simp [hw]
  · rename_i hk
    have hpred : ((fun r => decide (key r = k)) ∘ fun r => if key r = key v then v else r) =
        fun r => decide (key r = k) := by
      funext r
      by_cases hr : key r = key v
      · simp [hr, eq_comm]
      · simp [hr]
    rw [hpred]
    cases h : t.rows.find? fun r => key r = k with
    | none => rfl
    | some w =>
        have hw : key w = k := by simpa using List.find?_some h
        simp [hw, hk]

/-- What is put is found under its key. -/
theorem find?_put (t : Table key) (v : ν) (k : κ) :
    (t.put v).find? k = if k = key v then some v else t.find? k := by
  unfold put
  split
  · rename_i h
    rw [find?_update]
    split
    · rename_i hk
      subst hk
      cases hf : t.find? (key v) with
      | none => exact absurd h ((find?_eq_none_iff t _).mp hf)
      | some w => rfl
    · rfl
  · rename_i h
    unfold find?
    dsimp only
    rw [List.find?_append]
    split
    · rename_i hk
      subst hk
      have hnone : t.rows.find? (fun r => key r = key v) = none := (find?_eq_none_iff t _).mpr h
      simp [hnone]
    · rename_i hk
      simp [Ne.symm hk]

/-- What is erased is not found, and everything else is. -/
theorem find?_erase (t : Table key) (k k' : κ) :
    (t.erase k).find? k' = if k' = k then none else t.find? k' := by
  unfold find? erase
  dsimp only
  rw [List.find?_filter]
  split
  · rename_i hk
    subst hk
    refine List.find?_eq_none.mpr fun r _ => ?_
    simp
  · rename_i hk
    refine congrArg (List.find? · t.rows) (funext fun r => ?_)
    by_cases hr : key r = k'
    · subst hr
      simp [hk]
    · simp [hr]

/-- What is put is found. -/
@[simp] theorem find?_put_self (t : Table key) (v : ν) : (t.put v).find? (key v) = some v := by
  simp [find?_put]

/-- The rows after an insertion are the new one and old ones. -/
theorem mem_put {t : Table key} {v w : ν} (h : w ∈ (t.put v).rows) : w = v ∨ w ∈ t.rows := by
  have hfind := find?_of_mem h
  rw [find?_put] at hfind
  by_cases hkey : key w = key v
  · rw [if_pos hkey, Option.some.injEq] at hfind
    exact .inl hfind.symm
  · rw [if_neg hkey] at hfind
    exact .inr (find?_mem hfind)

/-- Inserting a row under a new key adds it at the end. -/
theorem rows_put_of_find?_eq_none {t : Table key} {v : ν} (h : t.find? (key v) = none) :
    (t.put v).rows = t.rows ++ [v] := by
  unfold put
  rw [dif_neg ((find?_eq_none_iff t _).mp h)]

/-- A column that the new row shares with the row it replaces stays as it is. -/
theorem map_rows_update {γ : Type} {t : Table key} {v : ν} (g : ν → γ)
    (h : ∀ r ∈ t.rows, key r = key v → g v = g r) : (t.update v).rows.map g = t.rows.map g := by
  unfold update
  rw [List.map_map]
  refine List.map_congr_left fun r hr => ?_
  by_cases hkey : key r = key v
  · simp only [Function.comp_apply, if_pos hkey, h r hr hkey]
  · simp only [Function.comp_apply, if_neg hkey]

/-- A column summed over the rows, when one of them is replaced. -/
theorem sum_map_put {M : Type} [AddCommMonoid M] (f : ν → M) {t : Table key} {v w : ν}
    (h : t.find? (key v) = some w) :
    ((t.put v).rows.map f).sum + f w = (t.rows.map f).sum + f v := by
  have hrows : ∀ l : List ν, (l.map key).Nodup → w ∈ l → key w = key v →
      ((l.map fun r => if key r = key v then v else r).map f).sum + f w = (l.map f).sum + f v := by
    intro l hnodup hmem hkey
    induction l with
    | nil => cases hmem
    | cons a l ih =>
        rw [List.map_cons, List.nodup_cons] at hnodup
        by_cases ha : key a = key v
        · -- the replaced row; no other row has its key
          have hsame : l.map (fun r => if key r = key v then v else r) = l := by
            refine (List.map_congr_left fun r hr => if_neg fun hrv => ?_).trans (List.map_id l)
            exact hnodup.1 (ha.trans hrv.symm ▸ List.mem_map_of_mem hr)
          have hw : w = a := by
            rcases List.mem_cons.mp hmem with hw | hw
            · exact hw
            · exact absurd (ha.trans hkey.symm ▸ List.mem_map_of_mem hw) hnodup.1
          simp only [List.map_cons, List.sum_cons, if_pos ha, hsame, hw]
          rw [add_comm (f v + _), add_assoc (f a), add_comm (f v)]
        · have hw : w ∈ l := by
            rcases List.mem_cons.mp hmem with hw | hw
            · exact absurd (hw ▸ hkey) ha
            · exact hw
          simp only [List.map_cons, List.sum_cons, if_neg ha, add_assoc]
          rw [ih hnodup.2 hw]
  have hkey := find?_key h
  have hmem := find?_mem h
  unfold put
  rw [dif_pos (hkey ▸ List.mem_map_of_mem hmem)]
  exact hrows t.rows t.nodup hmem hkey

/-- Two tables in which every key finds the same column have the same keys and columns, in some
order. -/
theorem perm_of_find?_map {γ : Type} {g : ν → γ} {t u : Table key}
    (h : ∀ k, (t.find? k).map g = (u.find? k).map g) :
    (t.rows.map fun r => (key r, g r)).Perm (u.rows.map fun r => (key r, g r)) := by
  have hnodup : ∀ v : Table key, (v.rows.map fun r => (key r, g r)).Nodup := by
    intro v
    refine List.Nodup.of_map Prod.fst ?_
    rw [List.map_map]
    exact v.nodup
  have hsub : ∀ v w : Table key, (∀ k, (v.find? k).map g = (w.find? k).map g) →
      ∀ x ∈ v.rows.map (fun r => (key r, g r)), x ∈ w.rows.map fun r => (key r, g r) := by
    intro v w hvw x hx
    obtain ⟨r, hr, rfl⟩ := List.mem_map.mp hx
    have hfound := hvw (key r)
    rw [find?_of_mem hr] at hfound
    obtain ⟨r', hr', hg⟩ := Option.map_eq_some_iff.mp hfound.symm
    exact List.mem_map.mpr ⟨r', find?_mem hr', by rw [find?_key hr', hg]⟩
  rw [List.perm_ext_iff_of_nodup (hnodup t) (hnodup u)]
  exact fun x => ⟨hsub t u h x, hsub u t (fun k => (h k).symm) x⟩

/-- Inserting rows with new and pairwise distinct keys makes exactly these rows findable. -/
theorem find?_foldl_put (l : List ν) (t : Table key) (hnodup : (l.map key).Nodup) (k : κ) :
    (l.foldl put t).find? k = ((l.find? fun r => key r = k).or (t.find? k)) := by
  induction l generalizing t with
  | nil => rfl
  | cons v l ih =>
      rw [List.map_cons, List.nodup_cons] at hnodup
      rw [List.foldl_cons, ih (t.put v) hnodup.2, find?_put, List.find?_cons]
      by_cases hk : k = key v
      · subst hk
        have hnone : l.find? (fun r => key r = key v) = none := by
          simp only [List.find?_eq_none, decide_eq_true_eq]
          exact fun r hr heq => hnodup.1 (heq ▸ List.mem_map_of_mem hr)
        simp [hnone]
      · simp [hk, Ne.symm hk]

/-- Inserting the rows of a table into the empty table gives the same finds. -/
theorem find?_foldl_put_rows (t : Table key) (k : κ) :
    (t.rows.foldl put (empty key)).find? k = t.find? k := by
  rw [find?_foldl_put t.rows (empty key) t.nodup]
  simp [find?, empty]

end Table

end SolanaBot.Library
