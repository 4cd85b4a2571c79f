import Mathlib.Data.List.Forall2
import SolanaBot.Library.Table

/-!
# A table seen through another one

One table may hold the rows of several others, in some encoding. `Shows t p R u` says that the rows
of `t` that `p` selects are, in their order, encodings of the rows of `u`; `Looks t k read a` that the
row with the key `k` is read as `a`. Both are kept by what is written to the table and to its view,
and by everything that is written to the rest of the table.
-/

set_option autoImplicit false

namespace SolanaBot.Library

/-- A way of writing values as texts and of reading texts. -/
structure Codec (α : Type) where
  encode : α → String
  decode : String → Except String α

namespace Codec

variable {α : Type}

/-- A value is read back from what it is written as. -/
def Reads (c : Codec α) (a : α) : Prop := c.decode (c.encode a) = .ok a

/-- Reading a column of related rows gives the values of the others. -/
theorem mapM_decode {ν μ : Type} (c : Codec α) {R : ν → μ → Prop} {f : ν → String} {g : μ → α}
    {rs : List ν} {ws : List μ} (h : List.Forall₂ R rs ws)
    (hread : ∀ r w, R r w → c.decode (f r) = .ok (g w)) :
    (rs.map f).mapM c.decode = .ok (ws.map g) := by
  induction h with
  | nil => rfl
  | cons hrw _ ih =>
      rw [List.map_cons, List.mapM_cons, hread _ _ hrw, ih]
      rfl

/-- The codec of a single value. -/
def single [DecidableEq α] (a : α) (text : String) : Codec α where
  encode b := if b = a then text else ""
  decode t := if t = text then .ok a else .error "not the text of the value"

/-- The single value is read back. -/
theorem single_reads [DecidableEq α] (a : α) (text : String) : (single a text).Reads a := by
  unfold Reads single
  simp

/-- The codec of no value. -/
def unused : Codec α where
  encode _ := ""
  decode _ := .error "no value"

end Codec

/-- Every element of the first list is related to one of the second. -/
theorem forall₂_exists_right {α β : Type} {R : α → β → Prop} {as : List α} {bs : List β}
    (h : List.Forall₂ R as bs) {a : α} (ha : a ∈ as) : ∃ b ∈ bs, R a b := by
  induction h with
  | nil => exact absurd ha List.not_mem_nil
  | cons hab _ ih =>
      rcases List.mem_cons.mp ha with rfl | ha
      · exact ⟨_, List.mem_cons_self .., hab⟩
      · obtain ⟨b, hb, hR⟩ := ih ha
        exact ⟨b, List.mem_cons_of_mem _ hb, hR⟩

namespace Table

variable {κ κ' ν μ α : Type} {key : ν → κ} {key' : μ → κ'}

section Shows

/-- The selected rows show the rows of the other table, in their order. -/
def Shows (t : Table key) (p : ν → Bool) (R : ν → μ → Prop) (u : Table key') : Prop :=
  List.Forall₂ R (t.rows.filter p) u.rows

variable {t : Table key} {u : Table key'} {p : ν → Bool} {R : ν → μ → Prop}

/-- A view of all rows shows them one by one. -/
theorem Shows.rows (h : Shows t (fun _ => true) R u) : List.Forall₂ R t.rows u.rows := by
  unfold Shows at h
  rwa [List.filter_true] at h

/-- Empty tables show each other. -/
theorem shows_empty : Shows (empty key) p R (empty key') := .nil

variable [DecidableEq κ]

/-- What is written outside the selection is not seen. -/
theorem Shows.put_outside (h : Shows t p R u) {v : ν} (hp : ∀ r, key r = key v → p r = false) :
    Shows (t.put v) p R u := by
  have hv := hp v rfl
  unfold Shows at h ⊢
  unfold put
  split
  · unfold update
    dsimp only
    rw [List.filter_map]
    have hsame : t.rows.filter (p ∘ fun r => if key r = key v then v else r) = t.rows.filter p := by
      refine List.filter_congr fun r _ => ?_
      by_cases hr : key r = key v
      · simp [hr, hv, hp r hr]
      · simp [hr]
    have hkeep : ∀ r ∈ t.rows.filter p, (if key r = key v then v else r) = r := by
      intro r hr
      refine if_neg fun hkey => ?_
      have hpr := (List.mem_filter.mp hr).2
      rw [hp r hkey] at hpr
      cases hpr
    rw [hsame, List.map_congr_left hkeep, List.map_id']
    exact h
  · rw [List.filter_append, List.filter_singleton, hv]
    simpa using h

/-- What is removed outside the selection is not missed. -/
theorem Shows.erase_outside (h : Shows t p R u) {k : κ} (hp : ∀ r, key r = k → p r = false) :
    Shows (t.erase k) p R u := by
  unfold Shows at h ⊢
  unfold Table.erase
  dsimp only
  rw [List.filter_filter]
  refine (congrArg (List.Forall₂ R · u.rows) (List.filter_congr fun r _ => ?_)).mpr h
  by_cases hr : key r = k
  · simp [hp r hr]
  · simp [hr]

omit [DecidableEq κ] in
/-- A row that is seen shows a row. -/
theorem Shows.exists_right (h : Shows t p R u) {r : ν} (hr : r ∈ t.rows) (hp : p r = true) :
    ∃ s ∈ u.rows, R r s :=
  forall₂_exists_right h (List.mem_filter.mpr ⟨hr, hp⟩)

omit [DecidableEq κ] in
/-- A row that is shown is seen. -/
theorem Shows.exists_left (h : Shows t p R u) {s : μ} (hs : s ∈ u.rows) :
    ∃ r ∈ t.rows, p r = true ∧ R r s := by
  obtain ⟨r, hr, hR⟩ := forall₂_exists_right (R := fun s r => R r s) (List.Forall₂.flip h) hs
  exact ⟨r, (List.mem_filter.mp hr).1, (List.mem_filter.mp hr).2, hR⟩

variable [DecidableEq κ']

/-- What is written over a row of the selection is written over what it shows. -/
theorem Shows.update (h : Shows t p R u) {v : ν} {w : μ} (hp : ∀ r, key r = key v → p r = true)
    (hR : R v w) (hkeys : ∀ r s, R r s → (key r = key v ↔ key' s = key' w)) :
    Shows (t.update v) p R (u.update w) := by
  unfold Shows at h ⊢
  unfold Table.update
  dsimp only
  have hsame : t.rows.filter (p ∘ fun r => if key r = key v then v else r) = t.rows.filter p := by
    refine List.filter_congr fun r _ => ?_
    by_cases hr : key r = key v
    · simp [hr, hp v rfl, hp r hr]
    · simp [hr]
  rw [List.filter_map, hsame, List.forall₂_map_left_iff, List.forall₂_map_right_iff]
  refine h.imp fun r s hrs => ?_
  by_cases hr : key r = key v
  · rw [if_pos hr, if_pos ((hkeys r s hrs).mp hr)]
    exact hR
  · rw [if_neg hr, if_neg fun hs => hr ((hkeys r s hrs).mpr hs)]
    exact hrs

/-- What is written inside the selection is written to what it shows. -/
theorem Shows.put (h : Shows t p R u) {v : ν} {w : μ} (hp : ∀ r, key r = key v → p r = true)
    (hR : R v w) (hkeys : ∀ r s, R r s → (key r = key v ↔ key' s = key' w)) :
    Shows (t.put v) p R (u.put w) := by
  have hmem : key v ∈ t.rows.map key ↔ key' w ∈ u.rows.map key' := by
    simp only [List.mem_map]
    constructor
    · rintro ⟨r, hr, hkey⟩
      obtain ⟨s, hs, hrs⟩ := h.exists_right hr (hp r hkey)
      exact ⟨s, hs, (hkeys r s hrs).mp hkey⟩
    · rintro ⟨s, hs, hkey⟩
      obtain ⟨r, hr, -, hrs⟩ := h.exists_left hs
      exact ⟨r, hr, (hkeys r s hrs).mpr hkey⟩
  unfold Table.put
  by_cases hstored : key v ∈ t.rows.map key
  · rw [dif_pos hstored, dif_pos (hmem.mp hstored)]
    exact h.update hp hR hkeys
  · rw [dif_neg hstored, dif_neg fun hw => hstored (hmem.mpr hw)]
    unfold Shows at h ⊢
    dsimp only
    rw [List.filter_append, List.filter_singleton, hp v rfl]
    exact List.rel_append h (.cons hR .nil)

/-- The row of a key is found where what it shows is found. -/
theorem Shows.find? (h : Shows t p R u) {k : κ} {k' : κ'} (hp : ∀ r, key r = k → p r = true)
    (hkeys : ∀ r s, R r s → (key r = k ↔ key' s = k')) :
    Option.Rel R (t.find? k) (u.find? k') := by
  cases hrow : t.find? k with
  | none =>
      have hnone : u.find? k' = none := by
        refine (find?_eq_none_iff u k').mpr fun hmem => ?_
        obtain ⟨s, hs, hkey⟩ := List.mem_map.mp hmem
        obtain ⟨r, hr, -, hrs⟩ := h.exists_left hs
        exact (find?_eq_none_iff t k).mp hrow (List.mem_map.mpr ⟨r, hr, (hkeys r s hrs).mpr hkey⟩)
      rw [hnone]
      exact .none
  | some r =>
      obtain ⟨hr, hkey⟩ := (find?_eq_some_iff t k r).mp hrow
      obtain ⟨s, hs, hrs⟩ := h.exists_right hr (hp r hkey)
      rw [(find?_eq_some_iff u k' s).mpr ⟨hs, (hkeys r s hrs).mp hkey⟩]
      exact .some hrs

end Shows

section Looks

variable [DecidableEq κ]

/-- The row with the key is read as `a`; there is none exactly if `a` is nothing. -/
def Looks (t : Table key) (k : κ) (read : ν → Option α) (a : Option α) : Prop :=
  (t.find? k).map read = a.map some

variable {t : Table key} {k : κ} {read : ν → Option α} {a : Option α}

/-- In an empty table nothing is seen. -/
theorem looks_empty : Looks (empty key) k read none := rfl

/-- What is put is seen as it is read. -/
theorem looks_put_self {v : ν} {b : α} (hread : read v = some b) :
    Looks (t.put v) (key v) read (some b) := by
  unfold Looks
  rw [find?_put_self]
  exact congrArg some hread

/-- A row of another key changes nothing. -/
theorem Looks.put_of_ne (h : Looks t k read a) {v : ν} (hne : k ≠ key v) :
    Looks (t.put v) k read a := by
  unfold Looks at h ⊢
  rw [find?_put, if_neg hne]
  exact h

/-- What is erased is not seen. -/
theorem looks_erase_self : Looks (t.erase k) k read none := by
  unfold Looks
  rw [find?_erase, if_pos rfl]
  rfl

/-- Erasing another key changes nothing. -/
theorem Looks.erase_of_ne (h : Looks t k read a) {k' : κ} (hne : k ≠ k') :
    Looks (t.erase k') k read a := by
  unfold Looks at h ⊢
  rw [find?_erase, if_neg hne]
  exact h

end Looks

end Table

end SolanaBot.Library
