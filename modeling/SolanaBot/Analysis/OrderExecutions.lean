import SolanaBot.Analysis.Interlocks
import SolanaBot.Analysis.OrderLedger
import SolanaBot.Library.Permissions

/-!
# Executions of orders

A reservation that the store has accepted permits one execution of its order, and nothing else does.
No task executes an order that it has not reserved itself, or executes one twice; so in every
interleaving an order is executed at most once, after it was written to the table, and never when it was
in the table before the run began (`orders_executed_once`).
-/

set_option autoImplicit false

namespace SolanaBot.Analysis

open SolanaBot.Library SolanaBot.Model

/-- An accepted reservation permits the execution of its order. -/
def executionPermits : Permissions Op Res String where
  earns
    | .reserveOrder _ order, answer =>
        match (answer : Except String Bool) with
        | .ok true => some order.id
        | _ => none
    | _, _ => none
  uses
    | .execute request => some request.orderId
    | _ => none

/-- An operation that does not trade uses no permission. -/
theorem idle_of_not_trades {o : Op} (h : trades o = false) : executionPermits.Idle o := by
  cases o with
  | reserveOrder seen order => cases h
  | execute request => cases h
  | _ => exact ⟨rfl, fun _ => rfl⟩

/-- Background work uses none. -/
theorem idle_of_background {o : Op} (h : Background o) : executionPermits.Idle o :=
  idle_of_not_trades h.idle

/-- Watching uses none. -/
theorem idle_of_watching {o : Op} (h : Watching o) : executionPermits.Idle o :=
  idle_of_background h.1

/-- The task executes only what it has reserved, holding the permission to execute `held`. -/
abbrev Licensed {α : Type} (held : Option String) (t : Model.Task α) : Prop :=
  t.Within executionPermits held

/-- The same of a part of a session or of the monitor. -/
abbrev LicensedS {ς α : Type} (held : Option String) (p : Prog.Stateful Op Res ς String α) : Prop :=
  Prog.WithinS executionPermits held p

/-- A call that does not trade is idle. -/
theorem idle_call {o : Op} (h : trades o = false) : (call o).Performs executionPermits.Idle :=
  performs_call (idle_of_not_trades h)

/-! ## Exits -/

section Tasks

variable (deps : Deps)

/-- A logged update is idle. -/
theorem idle_updateOrderLogged (copy o : OrderRecord) :
    (updateOrderLogged copy o).Performs executionPermits.Idle :=
  (background_updateOrderLogged copy o).mono fun _ => idle_of_background

/-- What follows the reservation of an exit trades once, for the reserved order. -/
theorem licensed_submitExit (order : OrderRecord) (terms : ExitTerms) (remaining : UInt64)
    (stored : Option Position) (mint reason : String) (pf : Portfolio) :
    Licensed (some order.id) (submitExit deps order terms remaining stored mint reason pf) := by
  have hlogged : ∀ {α : Type} (held : Option String) (copy o : OrderRecord) (a : α),
      Licensed held (updateOrderLogged copy o >>= fun _ => pure a : Model.Task α) :=
    fun held copy o a => Prog.within_bind_of_performs (idle_updateOrderLogged copy o) fun _ => trivial
  apply Prog.within_bind_of_performs (idle_call rfl)
  intro quote
  split
  · exact hlogged _ _ _ _
  · split
    · exact hlogged _ _ _ _
    · apply Prog.within_bind_of_performs (idle_updateOrderLogged _ _)
      intro _
      -- the execution uses the permission up
      apply Prog.within_perform_bind fun id hid => hid
      intro answer
      change Licensed none _
      split
      · apply Prog.within_bind_of_performs (idle_call rfl)
        intro now
        apply Prog.within_bind_of_performs (idle_call rfl)
        intro recorded
        split
        · exact Prog.within_bind_of_performs (idle_call rfl) fun _ => trivial
        · exact hlogged _ _ _ _
      · exact hlogged _ _ _ _
      · exact hlogged _ _ _ _

/-- An exit trades for the order it has reserved only. -/
theorem licensed_executeExitOrder (mint reason : String) (pf : Portfolio) :
    Licensed none (executeExitOrder deps mint reason pf) := by
  apply Prog.within_bind_of_performs (idle_call rfl)
  intro now
  apply Prog.within_bind_of_performs (idle_call rfl)
  intro stored
  split
  · trivial
  · split
    · trivial
    · apply Prog.within_bind_of_performs (idle_call rfl)
      intro incomplete
      split
      · trivial
      · split
        · trivial
        · split
          · trivial
          · apply Prog.within_bind_of_performs (idle_call rfl)
            intro orders
            split
            · trivial
            · split
              · trivial
              · apply Prog.within_bind_of_performs (idle_call rfl)
                intro id
                apply Prog.within_perform_bind (by simp [executionPermits])
                intro reserved
                split
                · trivial
                · trivial
                · exact licensed_submitExit deps _ _ _ _ _ _ _

/-- The attempt of an exit trades for an order it has reserved only. -/
theorem licensed_attemptExit (mint : String) (remaining : UInt64) (reason : String) :
    LicensedS none (attemptExit deps mint remaining reason) := by
  apply Prog.withinS_bind_of_performs Prog.performsS_get
  intro s
  split
  · exact fun _ => trivial
  · apply Prog.withinS_bind_of_performs Prog.performsS_get
    intro s
    apply Prog.withinS_bind (Prog.withinS_lift (licensed_executeExitOrder deps _ _ _))
    intro r
    apply Prog.withinS_bind_of_performs (Prog.performsS_modify _)
    intro _
    split
    · exact fun _ => trivial
    · exact Prog.withinS_of_performs (performs_countFailure fun _ => idle_of_not_trades rfl) _
    · exact fun _ => trivial
    · exact fun _ => trivial

/-- A look that only watches is idle. -/
theorem idle_watched {α : Type} {t : Model.Task α} (h : t.Performs Watching) :
    Prog.PerformsS executionPermits.Idle (look t) :=
  performsS_look (h.mono fun _ => idle_of_watching)

/-- The exit turn of one position is licensed. -/
theorem licensed_processExit (mint : String) : LicensedS none (processExit deps mint) := by
  apply Prog.withinS_bind_of_performs Prog.performsS_get
  intro s
  split
  · exact fun _ => trivial
  · split
    · exact fun _ => trivial
    · apply Prog.withinS_bind_of_performs (performsS_orStop (idle_call rfl))
      intro incomplete
      split
      · exact fun _ => trivial
      · split
        · apply Prog.withinS_bind_of_performs (idle_watched (watching_exitLiquidity _ _ _))
          intro liquidity
          apply Prog.withinS_bind_of_performs (idle_watched (watching_signalInvalidated _))
          intro invalidated
          apply Prog.withinS_bind_of_performs (idle_watched (watching_deriveMark _ _ _ _ _ _ _))
          intro mark
          split
          · exact fun _ => trivial
          · apply Prog.withinS_bind_of_performs Prog.performsS_get
            intro s
            apply Prog.withinS_bind_of_performs (Prog.performsS_modify _)
            intro _
            split
            · exact fun _ => trivial
            · apply Prog.withinS_bind_of_performs (performsS_look (idle_call rfl))
              intro now
              split
              · exact fun _ => trivial
              · exact licensed_attemptExit deps _ _ _
        · exact fun _ => trivial

/-- The exit stage is licensed. -/
theorem licensed_processExits : LicensedS none (processExits deps) := by
  apply Prog.withinS_bind_of_performs Prog.performsS_get
  intro s
  apply Prog.withinS_bind_of_performs (performsS_look (idle_call rfl))
  intro mints
  exact Prog.withinS_foldlM _ (fun _ mint => licensed_processExit deps mint) _

/-! ## Entries -/

/-- The rest of a reservation may execute the order if the store has accepted it. -/
theorem licensed_reserve_bind {β : Type} {seen : List OrderRecord} {order : OrderRecord}
    {f : Bool → Session β}
    (hf : ∀ reserved, LicensedS (if reserved then some order.id else none) (f reserved)) :
    LicensedS none (orStop (Store.reserveOrder seen order) >>= f) := by
  unfold orStop
  rw [bind_assoc]
  apply Prog.withinS_lift_perform_bind (by simp [executionPermits])
  intro answer
  cases answer with
  | error e => exact fun _ => trivial
  | ok reserved => cases reserved with
    | true => exact hf true
    | false => exact hf false

/-- The accounting of an entry is idle. -/
theorem idle_persistEntry (ctx : EntryContext) (fill : Fill) (placed : OrderRecord)
    (minOutputAmount : UInt64) :
    Prog.PerformsS executionPermits.Idle (persistEntry deps ctx fill placed minOutputAmount) := by
  apply Prog.performsS_bind Prog.performsS_get
  intro s
  apply Prog.performsS_bind (performsS_look (idle_call rfl))
  intro recorded
  split
  · apply Prog.performsS_bind (Prog.performsS_modify _)
    intro _
    split
    · exact performs_countFailure fun _ => idle_of_not_trades rfl
    · exact Prog.performsS_pure _
  · exact performsS_orStop (idle_call rfl)

/-- What follows the reservation of an entry trades once, for the reserved order. -/
theorem licensed_submitEntry (ctx : EntryContext) (order : OrderRecord) (quote : Quote) :
    LicensedS (some order.id) (submitEntry deps ctx order quote) := by
  apply Prog.withinS_bind_of_performs (performsS_orStop (idle_call rfl))
  intro _
  -- the execution uses the permission up
  apply Prog.withinS_lift_perform_bind fun id hid => hid
  intro answer
  change LicensedS none _
  apply Prog.withinS_of_performs
  split
  · exact idle_persistEntry deps ctx _ _ _
  · exact performsS_orStop (idle_call rfl)
  · exact Prog.performsS_bind (performsS_orStop (idle_call rfl)) fun _ =>
      performs_countFailure fun _ => idle_of_not_trades rfl

/-- The decision on an entry trades for the order it has reserved only. -/
theorem licensed_decideEntry (now : Time) (c : EntryCall) :
    LicensedS none (decideEntry deps now c) := by
  apply Prog.withinS_bind_of_performs Prog.performsS_get
  intro s
  dsimp only
  split
  · exact fun _ => trivial
  · split
    · exact fun _ => trivial
    · apply Prog.withinS_bind_of_performs (performsS_look (idle_call rfl))
      intro positionId
      apply Prog.withinS_bind_of_performs (performsS_look (idle_call rfl))
      intro id
      apply licensed_reserve_bind
      intro reserved
      refine Prog.withinS_bind ?_ fun _ => fun _ => trivial
      cases reserved with
      | true => exact licensed_submitEntry deps _ _ _
      | false => exact fun _ => trivial

/-- The entry turn of one candidate is licensed. -/
theorem licensed_processEntry (now : Time) (mint : String) :
    LicensedS none (processEntry deps now mint) := by
  rw [processEntry_eq]
  apply Prog.withinS_bind_of_performs (performs_beforeAuthorize deps (idle_of_not_trades rfl)
    (idle_of_not_trades rfl) (fun _ => idle_of_not_trades rfl) (fun _ _ _ _ => idle_of_not_trades rfl)
    now mint)
  intro c
  cases c with
  | none => exact fun _ => trivial
  | some c => exact licensed_decideEntry deps now c

/-- The entry stage is licensed. -/
theorem licensed_makeEntries : LicensedS none (makeEntries deps) := by
  apply Prog.withinS_bind_of_performs (performs_entryGate deps (idle_of_not_trades rfl))
  intro entering
  cases entering with
  | false => exact fun _ => trivial
  | true =>
      apply Prog.withinS_bind_of_performs (performsS_look (idle_call rfl))
      intro now
      apply Prog.withinS_bind_of_performs Prog.performsS_get
      intro s
      apply Prog.withinS_bind_of_performs (performsS_look (idle_call rfl))
      intro mints
      exact Prog.withinS_foldlM _ (fun _ mint => licensed_processEntry deps now mint) _

/-! ## Tasks -/

/-- Marking the equity is idle. -/
theorem idle_markEquity : Prog.PerformsS executionPermits.Idle (markEquity deps) :=
  performsS_markEquity deps (idle_of_not_trades rfl) fun _ => idle_of_not_trades rfl

/-- A tick is licensed. -/
theorem licensed_tick : LicensedS none (tick deps) := by
  rw [tick_eq_entries]
  unfold beforeEntries
  rw [beforeExits_eq]
  refine Prog.withinS_bind (Prog.withinS_bind ?_ fun _ => licensed_processExits deps) fun _ =>
    licensed_makeEntries deps
  refine Prog.withinS_of_performs (Prog.performsS_bind ?_ fun _ => idle_markEquity deps) none
  exact (background_beforeMarking deps).mono fun _ => idle_of_background

/-- All ticks are licensed. -/
theorem licensed_sessionTicks (ticks : ℕ) : LicensedS none (sessionTicks deps ticks) := by
  induction ticks with
  | zero => exact fun _ => trivial
  | succ n ih =>
      rw [sessionTicks_succ]
      refine Prog.withinS_bind ?_ fun _ => ih
      apply Prog.withinS_bind_of_performs Prog.performsS_get
      intro s
      apply Prog.withinS_bind (Prog.withinS_lift (licensed_tick deps s))
      intro r
      refine Prog.withinS_bind (fun _ => trivial) fun _ => Prog.withinS_of_performs ?_ none
      refine Prog.performsS_bind Prog.performsS_get fun s =>
        Prog.performsS_bind (performsS_orStop (idle_call rfl)) fun _ =>
        Prog.performsS_bind (performsS_orStop (idle_call rfl)) fun _ => performsS_orStop (idle_call rfl)

/-- A session trades for orders it has reserved only. -/
theorem licensed_runSession (ticks : ℕ) : Licensed none (runSession deps ticks) := by
  apply Prog.within_bind_of_performs (idle_call rfl)
  intro stored
  split
  · trivial
  · refine Prog.within_bind ?_ fun _ => trivial
    rw [sessionBody_eq]
    apply Prog.withinS_bind_of_performs ((background_sessionStart deps).mono fun _ => idle_of_background)
    intro _
    refine Prog.withinS_bind (licensed_sessionTicks deps ticks) fun _ => ?_
    exact Prog.withinS_of_performs
      ((background_finalReconciliation deps).mono fun _ => idle_of_background) none

/-- The decision of the monitor and its exit are licensed. -/
theorem licensed_monitorExit (position : Position) (mint : String) (remaining : UInt64)
    (tokenDecimals : UInt8) (mark : Decimal) (impactBps : UInt32) :
    LicensedS none (monitorExit deps position mint remaining tokenDecimals mark impactBps) := by
  apply Prog.withinS_bind_of_performs (performs_monitorLook ?_)
  · intro liquidity
    apply Prog.withinS_bind_of_performs (performs_monitorLook ?_)
    · intro invalidated
      apply Prog.withinS_bind_of_performs (performs_monitorLook (idle_call rfl))
      intro now
      split
      · exact fun _ => trivial
      · apply Prog.withinS_bind_of_performs Prog.performsS_get
        intro s
        exact Prog.withinS_bind (Prog.withinS_lift (licensed_executeExitOrder deps _ _ _))
          fun _ => fun _ => trivial
    · refine Prog.performs_bind (idle_call rfl) fun answer => ?_
      split <;> trivial
  · refine Prog.performs_bind ((watching_persistedLiquidity deps mint).mono fun _ => idle_of_watching)
      fun evidence => ?_
    split
    · trivial
    · exact Prog.performs_bind (idle_call rfl) fun _ => trivial

/-- A turn of the monitor is licensed. -/
theorem licensed_monitorPosition (mint : String) : LicensedS none (monitorPosition deps mint) := by
  apply Prog.withinS_bind_of_performs Prog.performsS_get
  intro s
  split
  · exact fun _ => trivial
  · split
    · exact fun _ => trivial
    · split
      · exact fun _ => trivial
      · apply Prog.withinS_bind_of_performs (performs_monitorOrStop (idle_call rfl))
        intro incomplete
        split
        · exact fun _ => trivial
        · split
          · exact fun _ => trivial
          · apply Prog.withinS_bind_of_performs
              ((watching_monitorMark deps _ _ _).mono fun _ => idle_of_watching)
            intro mark
            split
            · exact fun _ => trivial
            · apply Prog.withinS_bind_of_performs
                ((watching_saveMark _ _ _).mono fun _ => idle_of_watching)
              intro saved
              split
              · exact licensed_monitorExit deps _ _ _ _ _ _
              · exact fun _ => trivial

/-- The exit monitor trades for orders it has reserved only. -/
theorem licensed_runMonitor (ticks : ℕ) : Licensed none (runMonitor deps ticks) := by
  unfold runMonitor
  generalize (⟨Table.empty _, Portfolio.empty⟩ : MonitorState) = s
  induction ticks generalizing s with
  | zero => trivial
  | succ n ih =>
      refine Prog.within_bind ?_ fun r => ih r.2
      have htick : LicensedS none (monitorTick deps) := by
        apply Prog.withinS_bind_of_performs (performs_monitorLook
          ((background_reconcileStaleOrders deps).mono fun _ => idle_of_background))
        intro _
        apply Prog.withinS_bind_of_performs (performs_monitorOrStop (idle_call rfl))
        intro stored
        apply Prog.withinS_bind_of_performs (Prog.performsS_modify _)
        intro _
        apply Prog.withinS_bind_of_performs (performs_monitorOrStop (idle_call rfl))
        intro _
        apply Prog.withinS_bind_of_performs (performs_monitorOrStop (idle_call rfl))
        intro _
        apply Prog.withinS_bind_of_performs Prog.performsS_get
        intro s
        apply Prog.withinS_bind_of_performs (performs_monitorLook (idle_call rfl))
        intro mints
        exact Prog.withinS_foldlM _ (fun _ mint => licensed_monitorPosition deps mint) _
      exact htick s

/-- The operator's exit of one position is licensed. -/
theorem licensed_exitPosition (balances : List TokenBalance) (exited : ℕ) (mint : String) :
    LicensedS none (exitPosition deps balances exited mint) := by
  apply Prog.withinS_bind_of_performs Prog.performsS_get
  intro s
  split
  · exact fun _ => trivial
  · split
    · exact fun _ => trivial
    · split
      · exact fun _ => trivial
      · apply Prog.withinS_bind_of_performs (performsS_orStop (idle_call rfl))
        intro incomplete
        split
        · exact fun _ => trivial
        · exact Prog.withinS_bind (licensed_attemptExit deps _ _ _) fun _ => fun _ => trivial

/-- The operator's exit of all positions trades for orders it has reserved only. -/
theorem licensed_exitAllPositions : Licensed none (exitAllPositions deps) := by
  apply Prog.within_bind_of_performs (idle_call rfl)
  intro stored
  split
  · trivial
  · apply Prog.within_bind_of_performs (idle_call rfl)
    intro mints
    apply Prog.within_bind_of_performs
    · unfold fetchBalances
      split
      · split
        · trivial
        · refine Prog.performs_bind (idle_call rfl) fun answer => ?_
          split <;> trivial
      · trivial
    · intro balances
      refine Prog.within_bind ?_ fun _ => trivial
      exact Prog.withinS_foldlM _ (fun exited mint => licensed_exitPosition deps balances exited mint) _ _

end Tasks

/-- **Every task executes only what it has reserved.** -/
theorem IsTask.licensed {t : Model.Task Unit} (h : IsTask t) : Licensed none t := by
  cases h with
  | session deps ticks => exact licensed_runSession deps ticks
  | exitMonitor deps ticks => exact licensed_runMonitor deps ticks
  | exitAllPositions deps => exact Prog.within_bind (licensed_exitAllPositions deps) fun _ => trivial
  | reconciliation deps =>
      refine Prog.within_bind_of_performs ?_ fun _ => trivial
      exact (background_runReconciliation deps).mono fun _ => idle_of_background

/-! ## Every run -/

/-- The orders that were executed along a schedule, oldest first. -/
def executedAlong (bot : Bot) (schedule : List (Label Env)) : List String :=
  bot.usedAlong executionPermits world schedule

/-- The permission of a reservation that the store accepts. -/
theorem earns_exec (e : Env) (o : Op) (db : Db) :
    (executionPermits.earns o (exec e o db).1).toList = (reservation e o db).map OrderRecord.id := by
  cases o with
  | reserveOrder seen order =>
      unfold exec reservation executionPermits
      cases e.fault with
      | some msg => rfl
      | none =>
          dsimp only
          cases hanswer : (db.reserveOrder order).1 with
          | error msg => rfl
          | ok accepted => cases accepted <;> rfl
  | _ => rfl

/-- The permissions that a run earns are the ids of the orders it reserves. -/
theorem earnedAlong_eq (bot : Bot) (schedule : List (Label Env)) :
    bot.earnedAlong executionPermits world schedule =
      (reservationsAlong bot schedule).map OrderRecord.id := by
  refine (Pool.history_map (f := List.map OrderRecord.id) (fun e o db taken => ?_) [] bot schedule).symm
  rw [List.map_append]
  exact congrArg (_ ++ ·) (earns_exec e o db).symm

/-- What is executed was reserved along the schedule, and no oftener. -/
theorem executed_subperm_reserved {bot : Bot} (htasks : bot.RunsTasks) (schedule : List (Label Env)) :
    (executedAlong bot schedule).Subperm ((reservationsAlong bot schedule).map OrderRecord.id) := by
  rw [← earnedAlong_eq]
  exact Pool.used_subperm_earned (fun t ht => (htasks t ht).licensed) schedule

/-- The identifiers in the table after a run. -/
theorem ids_run {bot : Bot} (htasks : bot.RunsTasks) (hkeys : KeysApart bot.shared)
    (schedule : List (Label Env)) :
    (bot.run world schedule).shared.orders.rows.map OrderRow.id =
      bot.shared.orders.rows.map OrderRow.id ++
        (reservationsAlong bot schedule).map OrderRecord.id := by
  rw [← ledgerEntries_ids, (ledger_run htasks hkeys schedule).2, List.map_append, ledgerEntries_ids,
    List.map_map]
  rfl

/-- An order is stored exactly if its id is in the table. -/
theorem order_isSome_iff {db : Db} {id : String} :
    (db.order id).isSome = true ↔ id ∈ db.orders.rows.map OrderRow.id := by
  unfold Db.order
  rw [Option.isSome_map, Option.isSome_iff_exists, List.mem_map]
  constructor
  · rintro ⟨row, hrow⟩
    exact ⟨row, Table.find?_mem hrow, Table.find?_key hrow⟩
  · rintro ⟨row, hrow, rfl⟩
    exact ⟨row, Table.find?_of_mem hrow⟩

/-- An order that is executed is in the table. -/
theorem stored_when_executed {bot : Bot} (htasks : bot.RunsTasks) (hkeys : KeysApart bot.shared)
    {schedule : List (Label Env)} {l : Label Env} {request : ExecutionRequest}
    (hnext : (bot.run world schedule).next l = some (.execute request)) :
    ((bot.run world schedule).shared.order request.orderId).isSome = true := by
  have hused : executedAlong bot (schedule ++ [l]) =
      executedAlong bot schedule ++ [request.orderId] := Pool.history_snoc hnext
  have hreserved : reservationsAlong bot (schedule ++ [l]) = reservationsAlong bot schedule :=
    (Pool.history_snoc hnext).trans (List.append_nil _)
  have hsub := executed_subperm_reserved htasks (schedule ++ [l])
  rw [hused, hreserved] at hsub
  rw [order_isSome_iff, ids_run htasks hkeys]
  apply List.mem_append_right
  apply hsub.subset
  simp

/-- **Orders are executed once.** In every interleaving of the tasks, with any failures and any answers
of the outside world: no order is executed twice, an order is in the table when it is executed, and none
is executed that was there before the run. -/
theorem orders_executed_once (bot : Bot) (schedule : List (Label Env)) (htasks : bot.RunsTasks)
    (hkeys : KeysApart bot.shared) :
    (executedAlong bot schedule).Nodup ∧
      bot.Meets world (fun _ o db => ∀ request, o = .execute request →
        (db.order request.orderId).isSome = true) schedule ∧
      ∀ id ∈ executedAlong bot schedule, bot.shared.order id = none := by
  have hsub := executed_subperm_reserved htasks schedule
  have hnodup := (bot.run world schedule).shared.orders.nodup
  rw [ids_run htasks hkeys] at hnodup
  obtain ⟨-, hreserved, hapart⟩ := List.nodup_append.mp hnodup
  refine ⟨?_, ?_, fun id hid => ?_⟩
  · obtain ⟨ids, hperm, hsublist⟩ := hsub
    exact hperm.nodup_iff.mp (hreserved.sublist hsublist)
  · apply Pool.meets_of_splits
    rintro before l after - o hnext request rfl
    exact stored_when_executed htasks hkeys hnext
  · by_contra hstored
    have hmem := order_isSome_iff.mp (Option.isSome_iff_ne_none.mpr hstored)
    exact hapart id hmem id (hsub.subset hid) rfl

/-- The monitor and the operator's command execute an exit each, of orders of their own. -/
theorem orders_executed_once_sample :
    (executedAlong sellingBot (sampleTurns 0 17 ++ operatorTurns 12 ++ sampleTurns 0 12)).Nodup ∧
      executedAlong sellingBot (sampleTurns 0 17 ++ operatorTurns 12 ++ sampleTurns 0 12) =
        ["order-2", "order-1"] := by
  refine ⟨(orders_executed_once sellingBot _ sellingBot_runsTasks List.nodup_nil).1, ?_⟩
  decide +kernel

end SolanaBot.Analysis
