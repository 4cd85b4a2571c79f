import SolanaBot.Library.Triples

/-!
# What the turns of a loop do

`Prog.recorded note p` is what an observer notes who looks at every operation of a run. For a loop
that may stop with an error, `Prog.turns` lists the points at which its turns begin. What the loop
records is what its turns record (`recordedS_foldlM`), an invariant of the elements that are still to
come holds at each turn (`turns_meet`), and a loop that counts returns the number of turns that
count (`foldlM_counts`).
-/

set_option autoImplicit false

namespace SolanaBot.Library

variable {Op : Type} {Res : Op → Type} {σ ε α β γ ς δ : Type}

namespace Prog

/-! ## Notes on a run -/

section Recorded

variable (m : Machine Op Res σ ε) (env : ℕ → ε) (note : ε → Op → σ → List γ)

/-- What is noted at the operations of a run, in their order. -/
def recorded : Prog Op Res α → ℕ → σ → List γ
  | .done _, _, _ => []
  | .call o k, i, s =>
      note (env i) o s ++ (k (m.exec (env i) o s).1).recorded (i + 1) (m.exec (env i) o s).2

/-- `recorded` for a program with a local state. -/
def recordedS (p : Stateful Op Res ς δ α) (i : ℕ) (l : ς) (s : σ) : List γ :=
  recorded m env note ((ExceptT.run p).run l) i s

variable {m env note}

/-- The record of two parts, one after the other. -/
theorem recorded_bind (p : Prog Op Res α) (f : α → Prog Op Res β) (i : ℕ) (s : σ) :
    recorded m env note (p >>= f) i s = recorded m env note p i s ++
      recorded m env note (f (p.run m env i s).1) (p.run m env i s).2.2 (p.run m env i s).2.1 := by
  induction p generalizing i s with
  | done a => rfl
  | call o k ih =>
      change note _ _ _ ++ recorded m env note (k _ >>= f) _ _ = note _ _ _ ++ _ ++ _
      rw [ih, List.append_assoc]
      rfl

/-- Nothing is noted of a program whose operations are not noted. -/
theorem recorded_of_performs {S : Op → Prop} (h : ∀ e o s, S o → note e o s = [])
    {p : Prog Op Res α} (hp : p.Performs S) (i : ℕ) (s : σ) : recorded m env note p i s = [] := by
  induction p generalizing i s with
  | done a => rfl
  | call o k ih =>
      change note _ _ _ ++ recorded m env note (k _) _ _ = []
      rw [h _ _ _ hp.1, ih _ (hp.2 _)]
      rfl

/-- Who notes less sees less. -/
theorem recorded_filter (q : γ → Bool) (p : Prog Op Res α) (i : ℕ) (s : σ) :
    recorded m env (fun e o s => (note e o s).filter q) p i s =
      (recorded m env note p i s).filter q := by
  induction p generalizing i s with
  | done a => rfl
  | call o k ih =>
      change (note _ _ _).filter q ++ recorded m env _ (k _) _ _ = (note _ _ _ ++ _).filter q
      rw [ih, List.filter_append]

/-- A part whose operations are not noted records nothing. -/
theorem recordedS_of_performs {S : Op → Prop} (h : ∀ e o s, S o → note e o s = [])
    {p : Stateful Op Res ς δ α} (hp : PerformsS S p) (i : ℕ) (l : ς) (s : σ) :
    recordedS m env note p i l s = [] :=
  recorded_of_performs h (hp l) i s

/-- Reading the local variables records nothing. -/
theorem recordedS_get_bind (f : ς → Stateful Op Res ς δ β) (i : ℕ) (l : ς) (s : σ) :
    recordedS m env note (get >>= f) i l s = recordedS m env note (f l) i l s := rfl

/-- The record of two parts, the second only if the first goes on. -/
theorem recordedS_bind (p : Stateful Op Res ς δ α) (f : α → Stateful Op Res ς δ β) (i : ℕ) (l : ς)
    (s : σ) :
    recordedS m env note (p >>= f) i l s = recordedS m env note p i l s ++
      match runS m env p i l s with
      | ((.ok a, l'), s', i') => recordedS m env note (f a) i' l' s'
      | ((.error _, _), _, _) => [] := by
  refine (recorded_bind ((ExceptT.run p).run l) _ i s).trans ?_
  unfold recordedS runS
  rcases Prog.run m env ((ExceptT.run p).run l) i s with ⟨⟨r, l'⟩, s', i'⟩
  cases r <;> rfl

/-- A sequence whose second part is not noted. -/
theorem recordedS_bind_of_performs {S : Op → Prop} (h : ∀ e o s, S o → note e o s = [])
    (p : Stateful Op Res ς δ α) {f : α → Stateful Op Res ς δ β} (hf : ∀ a, PerformsS S (f a)) (i : ℕ)
    (l : ς) (s : σ) :
    recordedS m env note (p >>= f) i l s = recordedS m env note p i l s := by
  rw [recordedS_bind]
  rcases runS m env p i l s with ⟨⟨r, l'⟩, s', i'⟩
  cases r with
  | ok a => exact (congrArg _ (recordedS_of_performs h (hf a) i' l' s')).trans (List.append_nil _)
  | error e => exact List.append_nil _

/-- The record of a program and what follows it. -/
theorem recordedS_lift_bind (t : Prog Op Res α) (f : α → Stateful Op Res ς δ β) (i : ℕ) (l : ς)
    (s : σ) :
    recordedS m env note ((monadLift t : Stateful Op Res ς δ α) >>= f) i l s =
      recorded m env note t i s ++ recordedS m env note (f (t.run m env i s).1)
        (t.run m env i s).2.2 l (t.run m env i s).2.1 := by
  have hlift : recordedS m env note (monadLift t : Stateful Op Res ς δ α) i l s =
      recorded m env note t i s := by
    refine (recorded_bind (t >>= fun a => .done (a, l)) _ i s).trans ?_
    rw [recorded_bind]
    exact (List.append_nil _).trans (List.append_nil _)
  have hrun := runS_lift_bind (ς := ς) (δ := δ) m env t pure i l s
  rw [bind_pure, runS_pure] at hrun
  rw [recordedS_bind, hlift, hrun]

end Recorded

/-! ## Turns -/

/-- Where a turn of a loop begins. -/
structure Turn (α β ς σ : Type) where
  elem : α
  acc : β
  index : ℕ
  loc : ς
  shared : σ

section Turns

variable (m : Machine Op Res σ ε) (env : ℕ → ε) (f : β → α → Stateful Op Res ς δ β)

/-- The turns of a loop, up to the one that stops it with an error. -/
def turns : List α → β → ℕ → ς → σ → List (Turn α β ς σ)
  | [], _, _, _, _ => []
  | a :: as, b, i, l, s =>
      ⟨a, b, i, l, s⟩ ::
        match runS m env (f b a) i l s with
        | ((.ok b', l'), s', i') => turns as b' i' l' s'
        | ((.error _, _), _, _) => []

/-- The run of a turn. -/
def Turn.run (t : Turn α β ς σ) : (Except δ β × ς) × σ × ℕ :=
  runS m env (f t.acc t.elem) t.index t.loc t.shared

variable {m env f}

/-- What a loop records is what its turns record. -/
theorem recordedS_foldlM (note : ε → Op → σ → List γ) (as : List α) (b : β) (i : ℕ) (l : ς) (s : σ) :
    recordedS m env note (as.foldlM f b) i l s = (turns m env f as b i l s).flatMap fun t =>
      recordedS m env note (f t.acc t.elem) t.index t.loc t.shared := by
  induction as generalizing b i l s with
  | nil => rfl
  | cons a as ih =>
      rw [List.foldlM_cons, recordedS_bind]
      unfold turns
      rw [List.flatMap_cons]
      rcases runS m env (f b a) i l s with ⟨⟨r, l'⟩, s', i'⟩
      cases r with
      | ok b' => exact congrArg _ (ih b' i' l' s')
      | error e => rfl

/-- A loop that ends without an error takes a turn for every element. -/
theorem turns_elems (as : List α) (b : β) (i : ℕ) (l : ς) (s : σ) {b' : β}
    (hok : (runS m env (as.foldlM f b) i l s).1.1 = .ok b') :
    (turns m env f as b i l s).map Turn.elem = as := by
  induction as generalizing b i l s with
  | nil => rfl
  | cons a as ih =>
      rw [List.foldlM_cons, runS_bind] at hok
      unfold turns
      rw [List.map_cons]
      rcases hrun : runS m env (f b a) i l s with ⟨⟨r, l'⟩, s', i'⟩
      rw [hrun] at hok
      cases r with
      | ok b' => exact congrArg _ (ih b' i' l' s' hok)
      | error e => cases hok

/-- A turn begins where the turns before it end. -/
theorem turns_get (as : List α) (b : β) (i : ℕ) (l : ς) (s : σ) :
    ∀ t ∈ turns m env f as b i l s, ∃ k, as[k]? = some t.elem ∧
      runS m env ((as.take k).foldlM f b) i l s = ((.ok t.acc, t.loc), t.shared, t.index) := by
  induction as generalizing b i l s with
  | nil => exact fun t ht => absurd ht List.not_mem_nil
  | cons a as ih =>
      intro t ht
      unfold turns at ht
      rcases List.mem_cons.mp ht with rfl | ht
      · exact ⟨0, rfl, rfl⟩
      · rcases hrun : runS m env (f b a) i l s with ⟨⟨r, l'⟩, s', i'⟩
        rw [hrun] at ht
        cases r with
        | error e => cases ht
        | ok b' =>
            obtain ⟨k, helem, hbefore⟩ := ih b' i' l' s' t ht
            refine ⟨k + 1, helem, ?_⟩
            rw [List.take_succ_cons, List.foldlM_cons, runS_bind, hrun]
            exact hbefore

/-- An invariant of the elements still to come holds at the begin of each turn. -/
theorem turns_meet (I : List α → ς → σ → Prop)
    (hstep : ∀ a as b i l s, I (a :: as) l s → ∀ b' l' s' i',
      runS m env (f b a) i l s = ((.ok b', l'), s', i') → I as l' s')
    (as : List α) (b : β) (i : ℕ) (l : ς) (s : σ) (hI : I as l s) :
    ∀ t ∈ turns m env f as b i l s, ∃ rest, I (t.elem :: rest) t.loc t.shared := by
  induction as generalizing b i l s with
  | nil => exact fun t ht => absurd ht List.not_mem_nil
  | cons a as ih =>
      intro t ht
      unfold turns at ht
      rcases List.mem_cons.mp ht with rfl | ht
      · exact ⟨as, hI⟩
      · rcases hrun : runS m env (f b a) i l s with ⟨⟨r, l'⟩, s', i'⟩
        rw [hrun] at ht
        cases r with
        | ok b' => exact ih b' i' l' s' (hstep a as b i l s hI b' l' s' i' hrun) t ht
        | error e => cases ht

/-- A loop whose turns never stop does not stop. -/
theorem foldlM_ok (hok : ∀ b a i l s, ∃ b', (runS m env (f b a) i l s).1.1 = .ok b') (as : List α)
    (b : β) (i : ℕ) (l : ς) (s : σ) : ∃ b', (runS m env (as.foldlM f b) i l s).1.1 = .ok b' := by
  induction as generalizing b i l s with
  | nil => exact ⟨b, rfl⟩
  | cons a as ih =>
      obtain ⟨b', hturn⟩ := hok b a i l s
      rw [List.foldlM_cons, runS_bind]
      rcases hrun : runS m env (f b a) i l s with ⟨⟨r, l'⟩, s', i'⟩
      rw [hrun] at hturn
      obtain rfl : r = .ok b' := hturn
      exact ih b' i' l' s'

/-- What holds for an element is kept by turns for others. -/
theorem foldlM_keeps {K : α → σ → Prop}
    (hkeep : ∀ a a' b i l s, a ≠ a' → K a s → K a (runS m env (f b a') i l s).2.1) {a : α}
    (as : List α) (ha : a ∉ as) (b : β) (i : ℕ) (l : ς) (s : σ) (hK : K a s) :
    K a (runS m env (as.foldlM f b) i l s).2.1 := by
  induction as generalizing b i l s with
  | nil => exact hK
  | cons a' as ih =>
      rw [List.mem_cons, not_or] at ha
      have hturn := hkeep a a' b i l s ha.1 hK
      rw [List.foldlM_cons, runS_bind]
      rcases hrun : runS m env (f b a') i l s with ⟨⟨r, l'⟩, s', i'⟩
      rw [hrun] at hturn
      cases r with
      | ok b' => exact ih ha.2 b' i' l' s' hturn
      | error e => exact hturn

/-- What a turn achieves for its element holds at the end, if the other turns keep it. -/
theorem turns_achieve {K : α → σ → Prop}
    (hkeep : ∀ a a' b i l s, a ≠ a' → K a s → K a (runS m env (f b a') i l s).2.1)
    (as : List α) (hnodup : as.Nodup) (b : β) (i : ℕ) (l : ς) (s : σ) :
    ∀ t ∈ turns m env f as b i l s, K t.elem (t.run m env f).2.1 →
      K t.elem (runS m env (as.foldlM f b) i l s).2.1 := by
  induction as generalizing b i l s with
  | nil => exact fun t ht => absurd ht List.not_mem_nil
  | cons a as ih =>
      intro t ht hK
      obtain ⟨ha, hnodup⟩ := List.nodup_cons.mp hnodup
      unfold turns at ht
      rw [List.foldlM_cons, runS_bind]
      rcases List.mem_cons.mp ht with rfl | ht
      · unfold Turn.run at hK
        dsimp only at hK ⊢
        rcases hrun : runS m env (f b a) i l s with ⟨⟨r, l'⟩, s', i'⟩
        rw [hrun] at hK
        cases r with
        | ok b' => exact foldlM_keeps hkeep as ha b' i' l' s' hK
        | error e => exact hK
      · rcases hrun : runS m env (f b a) i l s with ⟨⟨r, l'⟩, s', i'⟩
        rw [hrun] at ht
        cases r with
        | ok b' => exact ih hnodup b' i' l' s' t ht hK
        | error e => cases ht

end Turns

/-- A loop that counts some of its turns returns how many there were. -/
theorem foldlM_counts {m : Machine Op Res σ ε} {env : ℕ → ε} {f : ℕ → α → Stateful Op Res ς δ ℕ}
    (c : Turn α ℕ ς σ → Bool) (as : List α) (b : ℕ) (i : ℕ) (l : ς) (s : σ) {n : ℕ}
    (hc : ∀ t ∈ turns m env f as b i l s, ∀ n', (t.run m env f).1.1 = .ok n' →
      n' = if c t then t.acc + 1 else t.acc)
    (hok : (runS m env (as.foldlM f b) i l s).1.1 = .ok n) :
    n = b + (turns m env f as b i l s).countP c := by
  induction as generalizing b i l s with
  | nil =>
      cases hok
      rfl
  | cons a as ih =>
      rw [List.foldlM_cons, runS_bind] at hok
      unfold turns at hc ⊢
      rcases hrun : runS m env (f b a) i l s with ⟨⟨r, l'⟩, s', i'⟩
      rw [hrun] at hok hc
      cases r with
      | error e => cases hok
      | ok b' =>
          have hhead := hc _ (List.mem_cons_self ..) b' (congrArg (fun x => x.1.1) hrun)
          have hrest := ih b' i' l' s' (fun t ht => hc t (List.mem_cons_of_mem _ ht)) hok
          rw [List.countP_cons, hrest, hhead]
          dsimp only
          split <;> omega

end Prog

/-! ## Counting -/

/-- Lists of one element or none, counted. -/
theorem length_flatMap_eq_countP {f : α → List γ} {q : α → Bool} (l : List α)
    (h : ∀ a ∈ l, (f a).length = if q a then 1 else 0) : (l.flatMap f).length = l.countP q := by
  induction l with
  | nil => rfl
  | cons a l ih =>
      rw [List.flatMap_cons, List.length_append, h a (List.mem_cons_self ..),
        ih fun a' ha' => h a' (List.mem_cons_of_mem _ ha'), List.countP_cons, Nat.add_comm]

/-- Two counts of a list, one of them at most the other, are equal exactly if they count alike. -/
theorem countP_eq_iff_of_imp {p q : α → Bool} (l : List α) (hqp : ∀ a ∈ l, q a = true → p a = true) :
    l.countP p = l.countP q ↔ ∀ a ∈ l, p a = true → q a = true := by
  constructor
  · intro heq
    induction l with
    | nil => exact fun a ha => absurd ha List.not_mem_nil
    | cons b l ih =>
        have hrest : ∀ a ∈ l, q a = true → p a = true := fun a ha => hqp a (List.mem_cons_of_mem _ ha)
        have hle : l.countP q ≤ l.countP p := List.countP_mono_left hrest
        have hhead := hqp b (List.mem_cons_self ..)
        rw [List.countP_cons, List.countP_cons] at heq
        have hb : p b = true → q b = true := by
          intro hp
          by_contra hq
          rw [if_pos hp, if_neg hq] at heq
          omega
        have hsame : (if p b = true then 1 else 0) = if q b = true then 1 else 0 :=
          if_congr ⟨hb, hhead⟩ rfl rfl
        rintro a (_ | ⟨_, ha⟩)
        · exact hb
        · exact ih hrest (by omega) a ha
  · intro h
    exact List.countP_congr fun a ha => ⟨h a ha, hqp a ha⟩

/-- No selection of distinct elements collects more than one item exactly if no single one and no two
of them do. -/
theorem length_flatMap_le_one_iff {f : α → List γ} :
    (∀ l : List α, l.Nodup → (l.flatMap f).length ≤ 1) ↔
      (∀ a, (f a).length ≤ 1) ∧ ∀ a b, a ≠ b → (f a).length + (f b).length ≤ 1 := by
  constructor
  · intro h
    refine ⟨fun a => ?_, fun a b hne => ?_⟩
    · have hone := h [a] (by simp)
      simpa using hone
    · have htwo := h [a, b] (by simpa using hne)
      simpa using htwo
  · rintro ⟨hone, htwo⟩ l hnodup
    induction l with
    | nil => exact Nat.zero_le _
    | cons a l ih =>
        obtain ⟨hnotin, hrest⟩ := List.nodup_cons.mp hnodup
        rw [List.flatMap_cons, List.length_append]
        have hl := ih hrest
        have ha := hone a
        rcases Nat.eq_zero_or_pos (f a).length with hzero | hpos
        · omega
        · -- the first element has collected its item, so that no other one has any
          have hnone : l.flatMap f = [] := by
            refine List.flatMap_eq_nil_iff.mpr fun b hb => ?_
            have hpair := htwo a b fun heq => hnotin (heq ▸ hb)
            exact List.eq_nil_of_length_eq_zero (by omega)
          rw [hnone]
          exact ha

end SolanaBot.Library
