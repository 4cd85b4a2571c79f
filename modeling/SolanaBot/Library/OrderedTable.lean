import Mathlib.Order.Lattice
import Mathlib.Data.List.Basic

/-!
# Ordered maps keyed by a column

An `OrderedTable key` is a list of rows in strictly ascending order of their keys: the values of an
ordered map from keys to records that contain their own key. `insert` puts a row in its place, in the
stead of the one that has its key.
-/

set_option autoImplicit false

namespace SolanaBot.Library

/-- Rows in strictly ascending order of their keys. -/
structure OrderedTable {κ ν : Type} [LinearOrder κ] (key : ν → κ) where
  rows : List ν
  ascending : rows.Pairwise fun a b => key a < key b

namespace OrderedTable

variable {κ ν : Type} [LinearOrder κ] {key : ν → κ}

/-- The map without rows. -/
def empty (key : ν → κ) : OrderedTable key := ⟨[], .nil⟩

/-- Put a row in its place among ascending rows. -/
def insertRow (key : ν → κ) (v : ν) : List ν → List ν
  | [] => [v]
  | w :: rest =>
      if key v < key w then v :: w :: rest
      else if key v = key w then v :: rest
      else w :: insertRow key v rest

/-- What is in the table is the inserted row or was there. -/
theorem mem_insertRow {v w : ν} {rows : List ν} (h : w ∈ insertRow key v rows) :
    w = v ∨ w ∈ rows := by
  induction rows with
  | nil => exact .inl (List.mem_singleton.mp h)
  | cons r rest ih =>
      unfold insertRow at h
      by_cases hlt : key v < key r
      · rw [if_pos hlt] at h
        exact List.mem_cons.mp h
      rw [if_neg hlt] at h
      by_cases heq : key v = key r
      · rw [if_pos heq] at h
        rcases List.mem_cons.mp h with hw | hw
        · exact .inl hw
        · exact .inr (List.mem_cons_of_mem r hw)
      rw [if_neg heq] at h
      rcases List.mem_cons.mp h with hw | hw
      · exact .inr (hw ▸ List.mem_cons_self)
      · exact (ih hw).imp id (List.mem_cons_of_mem r)

/-- The keys after an insertion: those before it and the new one. -/
theorem keys_insertRow (v : ν) (rows : List ν) (k : κ) :
    k ∈ (insertRow key v rows).map key ↔ k = key v ∨ k ∈ rows.map key := by
  induction rows with
  | nil => simp [insertRow]
  | cons r rest ih =>
      unfold insertRow
      by_cases hlt : key v < key r
      · rw [if_pos hlt, List.map_cons, List.mem_cons]
      rw [if_neg hlt]
      by_cases heq : key v = key r
      · rw [if_pos heq, List.map_cons, List.map_cons, List.mem_cons, List.mem_cons, heq]
        tauto
      · rw [if_neg heq, List.map_cons, List.map_cons, List.mem_cons, List.mem_cons, ih]
        tauto

/-- Inserting keeps the rows ascending. -/
theorem ascending_insertRow (v : ν) {rows : List ν}
    (h : rows.Pairwise fun a b => key a < key b) :
    (insertRow key v rows).Pairwise fun a b => key a < key b := by
  induction rows with
  | nil => exact List.pairwise_singleton _ v
  | cons r rest ih =>
      rw [List.pairwise_cons] at h
      unfold insertRow
      by_cases hlt : key v < key r
      · rw [if_pos hlt, List.pairwise_cons, List.pairwise_cons]
        refine ⟨fun w hw => ?_, h⟩
        rcases List.mem_cons.mp hw with rfl | hrest
        · exact hlt
        · exact lt_trans hlt (h.1 w hrest)
      rw [if_neg hlt]
      by_cases heq : key v = key r
      · rw [if_pos heq, List.pairwise_cons, heq]
        exact h
      · rw [if_neg heq, List.pairwise_cons]
        refine ⟨fun w hw => ?_, ih h.2⟩
        rcases mem_insertRow hw with rfl | hrest
        · exact lt_of_le_of_ne (not_lt.mp hlt) (Ne.symm heq)
        · exact h.1 w hrest

/-- Insert a row, in the stead of the one that has its key. -/
def insert (t : OrderedTable key) (v : ν) : OrderedTable key where
  rows := insertRow key v t.rows
  ascending := ascending_insertRow v t.ascending

/-- The keys after rows have been inserted one after the other. -/
theorem keys_foldl_insert (vs : List ν) (t : OrderedTable key) (k : κ) :
    k ∈ (vs.foldl insert t).rows.map key ↔ k ∈ vs.map key ∨ k ∈ t.rows.map key := by
  induction vs generalizing t with
  | nil => simp
  | cons v vs ih =>
      rw [List.foldl_cons, ih (t.insert v), List.map_cons, List.mem_cons]
      change _ ∨ k ∈ (insertRow key v t.rows).map key ↔ _
      rw [keys_insertRow]
      tauto

/-- The row with a key. -/
def find? (t : OrderedTable key) (k : κ) : Option ν := t.rows.find? fun v => key v = k

/-- Nothing is found in an empty table. -/
@[simp] theorem find?_empty (k : κ) : (empty key).find? k = none := rfl

/-- What is found after an insertion: the row that was inserted, or what was found before. -/
@[simp] theorem find?_insert (t : OrderedTable key) (v : ν) (k : κ) :
    (t.insert v).find? k = if k = key v then some v else t.find? k := by
  obtain ⟨rows, hascending⟩ := t
  change (insertRow key v rows).find? (fun w => key w = k) =
    if k = key v then some v else rows.find? fun w => key w = k
  clear hascending
  induction rows with
  | nil =>
      by_cases hk : k = key v
      · simp [insertRow, hk]
      · simp [insertRow, hk, Ne.symm hk]
  | cons r rest ih =>
      unfold insertRow
      by_cases hlt : key v < key r
      · rw [if_pos hlt]
        by_cases hk : k = key v
        · simp [hk]
        · simp [hk, Ne.symm hk]
      rw [if_neg hlt]
      by_cases heq : key v = key r
      · rw [if_pos heq]
        by_cases hk : k = key v
        · simp [hk]
        · have hr : key r ≠ k := by
            rw [← heq]
            exact Ne.symm hk
          simp [hk, Ne.symm hk, hr]
      · rw [if_neg heq, List.find?_cons, List.find?_cons, ih]
        by_cases hr : key r = k
        · have hk : k ≠ key v := by
            rw [← hr]
            exact Ne.symm heq
          simp [hr, hk]
        · simp [hr]

end OrderedTable

end SolanaBot.Library
