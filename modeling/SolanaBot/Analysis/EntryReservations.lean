import SolanaBot.Analysis.OrderReadings

/-!
# Reservations of entries

A session looks at the incomplete orders once in a tick, before its first entry, and not again
between two entries of the tick. What it reserves later rests on that one look. An entry is reserved
while no stored order is incomplete exactly if every order that any task has opened since the look
has been settled by a later operation (`entries_reserved_alone_iff`); an order of the tick itself
whose outcome is not known stays open (`reserved_despite_unknown`).
-/

set_option autoImplicit false

namespace SolanaBot.Analysis

open SolanaBot.Library SolanaBot.Model

/-! ## The law and its condition -/

/-- An entry is reserved. -/
def entryReserved (e : Env) (o : Op) (db : Db) : Bool :=
  (reservation e o db).any fun order => order.kind = .entry

/-- No stored order is incomplete when an entry is reserved. -/
def EntryAlone (e : Env) (o : Op) (db : Db) : Prop :=
  entryReserved e o db = true → db.incompleteOrders.orders = []

/-- When an entry is reserved, every order that was opened since the session has looked at the
incomplete orders is settled again. -/
def OpenedAreSettled (e : Env) (o : Op) (db : Db) (view : View Readings Since) : Prop :=
  entryReserved e o db = true → view.since.unsettled = []

/-- Whether `EntryAlone` holds can be evaluated. -/
instance (e : Env) (o : Op) (db : Db) : Decidable (EntryAlone e o db) :=
  inferInstanceAs (Decidable (_ → _))

/-- Whether `OpenedAreSettled` holds can be evaluated. -/
instance (e : Env) (o : Op) (db : Db) (view : View Readings Since) :
    Decidable (OpenedAreSettled e o db view) :=
  inferInstanceAs (Decidable (_ → _))

/-! ## One reservation -/

/-- The reservation of an entry rests on a check that has seen no order. -/
theorem checked_of_entryReserved {e : Env} {o : Op} {db : Db} {mem : Readings}
    (hallowed : orderWatch.allows mem o) (h : entryReserved e o db = true) :
    mem.checked = some [] := by
  unfold entryReserved at h
  obtain ⟨order, horder, hkind⟩ := List.any_eq_true.mp h
  cases o with
  | reserveOrder seen order' =>
      obtain ⟨hchecked, hentry, -⟩ := hallowed
      have heq : order = order' := by
        unfold reservation at horder
        dsimp only at horder
        split at horder
        · simpa using horder
        · cases horder
      rw [hchecked, hentry (heq ▸ of_decide_eq_true hkind)]
  | _ => cases horder

/-- After a check that has seen no order, the incomplete orders are those that were opened since. -/
theorem incomplete_iff_unsettled {db : Db} {view : View Readings Since} (h : Aware db view)
    (hchecked : view.memory.checked = some []) :
    db.incompleteOrders.orders = [] ↔ view.since.unsettled = [] := by
  constructor
  · intro hnone
    refine List.eq_nil_iff_forall_not_mem.mpr fun r hr => ?_
    have hopen := h.unsettled r hr
    unfold isOpen at hopen
    obtain ⟨o, ho, hstate⟩ := (Option.any_eq_true _ _).mp hopen
    have hid : o.id = r.id := order_id ho
    have hmem : o ∈ db.incompleteOrders.orders :=
      (Db.mem_incompleteOrders _ _).mpr ⟨hid ▸ ho, by simpa using hstate⟩
    rw [hnone] at hmem
    cases hmem
  · intro hnone
    refine List.eq_nil_iff_forall_not_mem.mpr fun o ho => ?_
    obtain ⟨r, hr, -⟩ := h.seen [] hchecked o ho
    rw [List.nil_append, hnone] at hr
    cases hr

/-! ## Every run -/

/-- **Entries are reserved alone exactly if what was opened since the gate is settled.** For every
interleaving of the tasks, with any candidates, answers, failures and restarts: no stored order is
incomplete at any reservation of an entry if and only if, at each of them, all orders that were opened
since the session has looked at the incomplete orders have been settled. -/
theorem entries_reserved_alone_iff (bot : Bot) (schedule : List (Label Env))
    (htasks : bot.RunsTasks) :
    bot.Meets world EntryAlone schedule ↔
      Pool.MeetsViews orderWatch world OpenedAreSettled freshViews bot schedule := by
  rw [← Pool.meetsViews_iff_meets (A := orderWatch) (v := freshViews)]
  refine Pool.meetsViews_congr (I := fun db views => ∀ i, Aware db (views i)) discipline_sound
    (fun i e o db views K hop hK _ h => aware_after hop hK h) ?_ htasks.follows htasks.recalls
    (fun i => aware_fresh bot.shared i) schedule
  intro i e o db views K hop hK hallowed h
  refine forall_congr' fun hreserved => ?_
  exact incomplete_iff_unsettled (h i) (checked_of_entryReserved hallowed hreserved)

/-! ## Two entries in one tick -/

/-- Two records that can be traded. -/
def twoRecords : List CandidateInput :=
  [{ tradableRecord with mint := "token-1" }, { tradableRecord with mint := "token-2" }]

/-- The sample world with two records in its feed, and new identifiers at every step. -/
def twoRecordsAnswer (execute : (r : ExecutionRequest) → Except ExecutionError Fill) (j : ℕ) :
    (o : Op) → Res o
  | .newUuid => "id-" ++ toString j
  | .execute r => execute r
  | o => feedAnswer twoRecords o

/-- Nobody else is there. -/
def twoRecordsEnv (execute : (r : ExecutionRequest) → Except ExecutionError Fill) (j : ℕ) :
    Env × (Db → Db) :=
  ({ sampleEnv with answer := twoRecordsAnswer execute j }, id)

/-- Everything is executed. -/
def executesAll (r : ExecutionRequest) : Except ExecutionError Fill :=
  .ok (swapFill r.orderId r.quote.inputAmount r.quote.outputAmount 10 0)

/-- The outcome of no execution is known. -/
def knowsNothing (_ : ExecutionRequest) : Except ExecutionError Fill := .error (.unknown none "timeout")

/-- A session with two records in its feed, and the operator's reconciliation. -/
def twoRecordsBot : Bot :=
  ⟨Db.new, [runSession feedDeps 1, do let _ ← (runReconciliation feedDeps).run; return ()]⟩

/-- The bot with the two records runs tasks. -/
theorem twoRecordsBot_runsTasks : twoRecordsBot.RunsTasks := by
  intro t ht
  simp only [twoRecordsBot, List.mem_cons, List.not_mem_nil, or_false] at ht
  rcases ht with rfl | rfl
  · exact .session _ _
  · exact .reconciliation _

/-- Turns of a program, at some point of the schedule, while the outcome of no execution is known. -/
def unknownTurns (proc first operations : ℕ) : List (Label Env) :=
  (List.range operations).map fun j => ⟨proc, (twoRecordsEnv knowsNothing (first + j)).1⟩

/-- The reconciliation settles the first entry, whose outcome is not known, before the second one is
reserved. -/
theorem entries_reserved_alone_iff_sample :
    twoRecordsBot.Meets world EntryAlone
        (unknownTurns 0 0 38 ++ unknownTurns 1 38 3 ++ unknownTurns 0 41 7) ∧
      (twoRecordsBot.run world (unknownTurns 0 0 38 ++ unknownTurns 1 38 3 ++
        unknownTurns 0 41 7)).shared.allOrders.map (fun o => (o.kind, o.state)) =
          [(.entry, .failed), (.entry, .pending)] :=
  ⟨(entries_reserved_alone_iff twoRecordsBot _ twoRecordsBot_runsTasks).mpr (by decide +kernel),
    by decide +kernel⟩

/-- The first of two entries in a tick ends with an unknown outcome, and the second is reserved
nevertheless. -/
theorem reserved_despite_unknown : ¬ ∀ (bot : Bot) (schedule : List (Label Env)), bot.RunsTasks →
    bot.Meets world EntryAlone schedule := by
  intro hlaw
  have halone := hlaw twoRecordsBot (unknownTurns 0 0 45) twoRecordsBot_runsTasks
  exact absurd halone (by decide +kernel)

end SolanaBot.Analysis
