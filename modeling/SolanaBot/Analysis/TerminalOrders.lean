import SolanaBot.Analysis.StoreSteps

/-!
# Terminal orders

`update_order` overwrites an order by its id, and the state machine is asked about the
record that the task holds. Terminal states are final in every run whose writes work on
current records: the record of an order that is already terminal in the store shows
the stored state (`CopyCurrent`). A run that breaks this condition moves a failed
order to confirmed (`terminal_not_final`).
-/

set_option autoImplicit false

namespace SolanaBot.Analysis

open SolanaBot.Library SolanaBot.Model

/-- A write to an order works on a record that shows the stored state, if that state is one of
`finals`. -/
def CopyCurrent (finals : OrderState → Bool) (_ : Env) (op : Op) (db : Db) : Prop :=
  ∀ copy ∈ orderCopy op, ∀ stored ∈ db.order copy.id,
    finals stored.state → copy.state = stored.state

/-- Whether `CopyCurrent` holds can be evaluated. -/
instance (finals : OrderState → Bool) (e : Env) (op : Op) (db : Db) :
    Decidable (CopyCurrent finals e op db) := by
  unfold CopyCurrent
  infer_instance

/-- Every order whose state in the first store is one of `finals` has the same state in the
second store. -/
def KeepsStates (finals : OrderState → Bool) (db db' : Db) : Prop :=
  ∀ id o, db.order id = some o → finals o.state →
    ∃ o', db'.order id = some o' ∧ o'.state = o.state

/-- Doing nothing keeps the final states. -/
theorem KeepsStates.refl (finals : OrderState → Bool) (db : Db) : KeepsStates finals db db :=
  fun _ o ho _ => ⟨o, ho, rfl⟩

/-- Keeping them twice keeps them. -/
theorem KeepsStates.trans {finals : OrderState → Bool} {db db' db'' : Db}
    (h : KeepsStates finals db db') (h' : KeepsStates finals db' db'') :
    KeepsStates finals db db'' := by
  intro id o ho hfinal
  obtain ⟨o', ho', heq⟩ := h id o ho hfinal
  obtain ⟨o'', ho'', heq'⟩ := h' id o' ho' (heq ▸ hfinal)
  exact ⟨o'', ho'', heq'.trans heq⟩

/-- One operation on a current record keeps terminal states. -/
theorem keepsStates_exec {finals : OrderState → Bool} (hfinals : ∀ s, finals s → s.isTerminal)
    {e : Env} {op : Op} {db : Db} {K : Set OrderRecord} (hop : permits K op)
    (hK : ∀ f ∈ K, StoredAs f db) (hcurrent : CopyCurrent finals e op db) :
    KeepsStates finals db (exec e op db).2 := by
  intro id o ho hfinal
  cases exec_order e hop hK id with
  | same h => exact ⟨o, h.trans ho, rfl⟩
  | reserved seen o' _ _ hnew _ =>
      rw [hnew] at ho
      cases ho
  | revised copy o' stored hcopy hid hstored _ hrevises h =>
      subst hid
      obtain rfl : stored = o := by rw [ho] at hstored; exact (Option.some.inj hstored).symm
      have hstate : copy.state = stored.state := hcurrent copy hcopy stored ho hfinal
      refine ⟨o', h, ?_⟩
      rw [hrevises.state.eq_of_isTerminal (hstate ▸ hfinals _ hfinal), hstate]

/-- **Terminal states are final** in every run whose writes work on current records: what is
terminal at some point of the run has the same state at every later point. -/
theorem terminal_final (bot : Bot) (before after : List (Label Env)) (htasks : bot.RunsTasks)
    (hcurrent : bot.Meets world (CopyCurrent OrderState.isTerminal) (before ++ after)) :
    KeepsStates OrderState.isTerminal (bot.run world before).shared (bot.run world (before ++ after)).shared := by
  rw [Pool.run_append]
  have hafter := ((Pool.meets_append world _ bot before after).mp hcurrent).2
  exact Pool.run_rel discipline_sound (KeepsStates OrderState.isTerminal) (.refl _)
    (fun _ _ _ => .trans) (fun _ _ _ _ hop hK hC => keepsStates_exec (fun _ h => h) hop hK hC)
    (htasks.follows.run discipline_sound before) hafter

/-- The exit monitor and a session on the sample store. -/
def sampleBot : Bot := ⟨sampleDb, [runMonitor (sampleDeps false) 1, runSession (sampleDeps false) 0]⟩

/-- The sample's bot runs tasks. -/
theorem sampleBot_runsTasks : sampleBot.RunsTasks := by
  intro t ht
  simp only [sampleBot, List.mem_cons, List.not_mem_nil, or_false] at ht
  rcases ht with rfl | rfl
  · exact .exitMonitor _ _
  · exact .session _ _

/-- If the monitor has recorded its fill before the session starts, the order stays confirmed. -/
theorem terminal_final_sample :
    KeepsStates OrderState.isTerminal (sampleBot.run world (sampleTurns 0 26)).shared
      (sampleBot.run world (sampleTurns 0 26 ++ sampleTurns 1 12)).shared :=
  terminal_final sampleBot _ _ sampleBot_runsTasks (by decide +kernel)

/-- The session's reconciler fails the order that the monitor has submitted; then the monitor
records the fill and confirms it. -/
theorem terminal_not_final : ¬ ∀ (bot : Bot) (before after : List (Label Env)), bot.RunsTasks →
    KeepsStates OrderState.isTerminal (bot.run world before).shared
      (bot.run world (before ++ after)).shared := by
  intro hfinal
  have hkeeps := hfinal sampleBot (sampleTurns 0 23 ++ sampleTurns 1 10) (sampleTurns 0 2)
    sampleBot_runsTasks
  have hfailed : ((sampleBot.run world (sampleTurns 0 23 ++ sampleTurns 1 10)).shared.order
      "order-1").map OrderRecord.state = some .failed := by
    decide +kernel
  have hconfirmed : ((sampleBot.run world ((sampleTurns 0 23 ++ sampleTurns 1 10) ++
      sampleTurns 0 2)).shared.order "order-1").map OrderRecord.state = some .confirmed := by
    decide +kernel
  obtain ⟨o, ho, hstate⟩ := Option.map_eq_some_iff.mp hfailed
  obtain ⟨o', ho', heq⟩ := hkeeps "order-1" o ho (by rw [hstate]; rfl)
  rw [ho', Option.map_some, heq, hstate] at hconfirmed
  cases hconfirmed

end SolanaBot.Analysis
