import SolanaBot.Analysis.EmergencyExits
import SolanaBot.Analysis.PersistenceFailures

/-!
# What the operator's exit achieves

If every statement succeeds and the executor fills every order completely, a turn of the operator's exit
that sells a position closes it (`exitPosition_closes`): the reservation is accepted, the quote and its
execution answer, and the transaction of the fill applies to the position that was read. The command
does not stop at any position, and the other turns leave the closed one alone. So at the end everything
that was sold is closed (`exit_all_closes`).
-/

set_option autoImplicit false

namespace SolanaBot.Analysis

open SolanaBot.Library SolanaBot.Model

/-- The executor gives quotes within the impact limit, and fills every order completely. -/
structure FillsOrders (deps : Deps) (e : Env) : Prop where
  quote : ∀ inputMint outputMint amount slippageBps, ∃ quote : Quote,
    e.answer (.quote inputMint outputMint amount slippageBps) = .ok quote ∧
      quote.inputAmount = amount ∧
      quote.priceImpactBps ≤ deps.config.execution.maxPriceImpactBps
  execute : ∀ request, ∃ fill : Fill, e.answer (.execute request) = .ok fill ∧
    fill.inputAmount = request.quote.inputAmount ∧ fill.inputValueUsd.isSome

/-- The position can be accounted for when it is sold. -/
structure Accountable (p : Position) : Prop where
  entryCost : p.entryCostUsd.isSome
  quantity : p.quantity ≠ 0

/-- The stored position of the mint is closed, and nothing of it remains. -/
def ClosedIn (mint : String) (db : Db) : Prop :=
  ∃ p, db.positions.find? mint = some p ∧ p.state = .closed ∧ p.remainingQuantityAtomic = some 0

/-! ## The transaction -/

/-- A complete sale closes the position. -/
theorem applyExit_complete {pf : Portfolio} {p : Position} {mint : String} {remaining : UInt64}
    {fill : Fill} (hp : pf.position mint = some p) (hremaining : p.remainingQuantityAtomic = some remaining)
    (haccountable : Accountable p) (hamount : fill.inputAmount = remaining)
    (hvalue : fill.inputValueUsd.isSome) (reason : String) (now : Time) :
    (∃ outcome, (pf.applyExit mint fill reason now).1 = .ok outcome) ∧
      ∃ p', (pf.applyExit mint fill reason now).2.position mint = some p' ∧ p'.mint = mint ∧
        p'.state = .closed ∧ p'.remainingQuantityAtomic = some 0 := by
  obtain ⟨proceeds, hproceeds⟩ := Option.isSome_iff_exists.mp hvalue
  obtain ⟨entryCost, hentryCost⟩ := Option.isSome_iff_exists.mp haccountable.entryCost
  have hsub : checkedSub remaining remaining = some 0 := by simp [checkedSub]
  have hmint : p.mint = mint := Portfolio.mint_of_position hp
  unfold Portfolio.applyExit
  simp only [hp, hremaining, hamount, hsub, hproceeds, hentryCost, haccountable.quantity, if_false]
  refine ⟨⟨_, rfl⟩, p.afterExit fill 0 (proceeds - entryCost * dec remaining / p.quantity -
    fill.feesUsd) reason now, ?_, hmint, rfl, rfl⟩
  exact (Portfolio.position_put pf _ mint).trans (if_pos hmint.symm)

/-- The transaction of a complete sale goes through, and the store has the position closed. -/
theorem exitTransaction_closes (fill : Fill) {placed : OrderRecord} {p : Position} {mint : String}
    {remaining : UInt64} (hplaced : placed.state = .submitted) (hmint : p.mint = mint)
    (hremaining : p.remainingQuantityAtomic = some remaining) (haccountable : Accountable p)
    (hamount : fill.inputAmount = remaining) (hvalue : fill.inputValueUsd.isSome) (reason : String)
    (now : Time) (db : Db) :
    let t := exitTransaction fill placed (some p) mint reason now
    runFillTransaction .none t db = ((.ok (), t.confirmed), t.applied db) ∧
      ClosedIn mint (t.applied db) := by
  intro t
  have hsynced : (db.loadPortfolio.syncPosition p).position mint = some p :=
    (Portfolio.position_put _ p mint).trans (if_pos hmint.symm)
  obtain ⟨⟨outcome, hok⟩, p', hp', hmint', hclosed, hnothing⟩ :=
    applyExit_complete hsynced hremaining haccountable hamount hvalue reason now
  have haccount : (t.account db.loadPortfolio).1 = .ok () := congrArg (Except.map fun _ => ()) hok
  have hposition : (t.account db.loadPortfolio).2.position t.mint = some p' := hp'
  have htransition : (t.signed.transition .confirmed).isOk = true := by
    have hstate : t.signed.state = .submitted := hplaced
    simp [OrderRecord.transition, hstate, OrderState.canTransition, Except.isOk, Except.toBool]
  have hfailure : t.failure .none db = none := by
    unfold FillTransaction.failure
    rw [haccount, htransition]
    rfl
  refine ⟨(runFillTransaction_applied hfailure).2.2, p', ?_, hclosed, hnothing⟩
  unfold FillTransaction.applied
  rw [hposition]
  dsimp only
  rw [Db.positions_updateOrder, find?_savePosition, if_pos hmint'.symm]

/-! ## The exit path -/

section Path

variable {deps : Deps} {env : ℕ → Env} {mint : String} {p : Position} {remaining : UInt64}

/-- A submitted exit is filled and closes its position. -/
theorem submitExit_closes (hquiet : Quiet env) (hfills : ∀ j, FillsOrders deps (env j))
    {order : OrderRecord} (hpending : order.state = .pending) (terms : ExitTerms)
    (hmint : p.mint = mint) (hremaining : p.remainingQuantityAtomic = some remaining)
    (haccountable : Accountable p) (reason : String) (pf : Portfolio) (i : ℕ) (db : Db) :
    ClosedIn mint (Prog.run world env (submitExit deps order terms remaining (some p) mint reason pf)
      i db).2.1 := by
  obtain ⟨quote, hquote, hquoted, himpact⟩ := (hfills i).quote mint terms.baseMint remaining
    deps.config.execution.slippageBps
  obtain ⟨fill, hfill, hsold, hvalue⟩ := (hfills (i + 1 + 1)).execute (exitRequest deps order terms quote)
  have hplaced : (order.transitionOrKeep .submitted).state = .submitted := by
    rw [transitionOrKeep_submitted hpending]
  obtain ⟨hrun, hclosed⟩ := exitTransaction_closes
    (finalizeFill fill deps.config.economics.solPriceUsd) hplaced hmint hremaining haccountable
    (hsold.trans hquoted) hvalue reason (env (i + 1 + 1 + 1)).clock
    (updatedDb (env (i + 1)) (order.transitionOrKeep .submitted) db)
  unfold exitRequest at hfill
  unfold submitExit
  rw [Prog.run_bind, quote_run]
  dsimp only
  rw [hquote]
  dsimp only
  rw [if_neg (by simpa using himpact), Prog.run_bind, storeUpdateOrderLogged_run, Prog.run_bind,
    execute_run]
  dsimp only
  rw [hfill]
  unfold persistExit
  rw [Prog.run_bind, clock_run, Prog.run_bind, fillTransaction_run, (hquiet _).2, hrun]
  exact hclosed

/-- A part of the exit path starts with an operation that leaves the store alone. -/
theorem closedIn_read {α : Type} {o : Op} {f : Res o → Model.Task α} {i : ℕ} {db : Db} {r : Res o}
    (hexec : world.exec (env i) o db = (r, db))
    (h : ClosedIn mint (Prog.run world env (f r) (i + 1) db).2.1) :
    ClosedIn mint (Prog.run world env (call o >>= f) i db).2.1 := by
  change ClosedIn mint (Prog.run world env (f (world.exec (env i) o db).1) (i + 1)
    (world.exec (env i) o db).2).2.1
  rwa [hexec]

/-- A part of the exit path starts with a reservation that the store accepts. -/
theorem closedIn_reserve {α : Type} {seen : List OrderRecord} {order : OrderRecord}
    {f : Except String Bool → Model.Task α} {i : ℕ} {db : Db} (hfault : (env i).fault = none)
    (haccepted : (db.reserveOrder order).1.toOption = some true)
    (h : ∀ db, ClosedIn mint (Prog.run world env (f (.ok true)) (i + 1) db).2.1) :
    ClosedIn mint (Prog.run world env (Store.reserveOrder seen order >>= f) i db).2.1 := by
  have hanswer : (db.reserveOrder order).1 = .ok true := by
    cases hanswer : (db.reserveOrder order).1 with
    | error e => simp [hanswer, Except.toOption] at haccepted
    | ok b => simpa [hanswer, Except.toOption] using haccepted
  have hexec : world.exec (env i) (.reserveOrder seen order) db = db.reserveOrder order := by
    change exec (env i) (.reserveOrder seen order) db = _
    unfold exec
    rw [hfault]
  change ClosedIn mint (Prog.run world env (f (world.exec (env i) (.reserveOrder seen order) db).1)
    (i + 1) (world.exec (env i) (.reserveOrder seen order) db).2).2.1
  rw [hexec, hanswer]
  exact h _

/-- The order of a reservable exit is accepted. -/
theorem reservable_accepted {id : String} {db : Db} (hreservable : Reservable deps p id db)
    (htrusted : p.trustedRemaining = some remaining) (mint : String) (terms : ExitTerms)
    (value : Decimal) (now : Time) :
    (db.reserveOrder (exitOrder id p mint "manual_exit"
      (manualKey deps (p.positionId.getD mint) remaining db) remaining terms value
      now)).1.toOption = some true := by
  obtain ⟨hid, -, remaining', hremaining', -, positionId, hpositionId, hkeys⟩ := hreservable
  obtain rfl : remaining' = remaining := Option.some.inj (hremaining'.symm.trans htrusted)
  replace hpositionId : p.positionId = some positionId := hpositionId
  rw [reserveOrder_accepts_iff, checkOrder_exitOrder, hpositionId]
  exact ⟨rfl, hid, hkeys⟩

/-- A reservable exit is reserved, filled and closes its position. -/
theorem reserveExit_closes (hquiet : Quiet env) (hfills : ∀ j, FillsOrders deps (env j))
    {terms : ExitTerms} (hterms : exitTerms p = .ok terms) (hmint : p.mint = mint)
    (htrusted : p.trustedRemaining = some remaining)
    (hremaining : p.remainingQuantityAtomic = some remaining) (haccountable : Accountable p)
    {seen : List OrderRecord} {stored : List Position}
    (hstored : (stored.find? fun q => q.mint = mint) = some p) (now : Time) (pf : Portfolio) (i : ℕ)
    (db : Db) (hreservable : Reservable deps p (newId (env (i + 1))) db) :
    ClosedIn mint (Prog.run world env
      (reserveExit deps p remaining terms seen stored mint "manual_exit" now pf) i db).2.1 := by
  have hsmall : terms.tokenDecimals.toNat < 20 := by
    obtain ⟨-, ⟨decimals, hdecimals, hsmall⟩, -⟩ := hreservable
    rw [tokenDecimals_of_exitTerms hterms] at hdecimals
    cases hdecimals
    exact hsmall
  unfold reserveExit
  apply closedIn_read (orders_exec (hquiet i).1 db)
  dsimp only
  rw [units_eq_ok hsmall]
  apply closedIn_read rfl
  apply closedIn_reserve (hquiet _).1
    (reservable_accepted hreservable htrusted mint terms _ now)
  intro db
  dsimp only
  rw [hstored]
  exact submitExit_closes hquiet hfills rfl terms hmint hremaining haccountable _ pf _ _

/-- The whole exit path. -/
theorem executeExitOrder_closes (hquiet : Quiet env) (hfills : ∀ j, FillsOrders deps (env j))
    {terms : ExitTerms} (hterms : exitTerms p = .ok terms) (htrusted : p.trustedRemaining = some remaining)
    (haccountable : Accountable p) (pf : Portfolio) (i : ℕ) {db : Db}
    (hstored : db.positions.find? mint = some p) (hopen : p.isOpen = true)
    (hclear : db.incompleteOrders.orders.any (isExitOf p.positionId) = false)
    (hreservable : Reservable deps p (newId (env (i + 4))) db) :
    ClosedIn mint (Prog.run world env (executeExitOrder deps mint "manual_exit" pf) i db).2.1 := by
  have hmint : p.mint = mint := Table.find?_key hstored
  have hremaining : p.remainingQuantityAtomic = some remaining := by
    unfold Position.trustedRemaining at htrusted
    split at htrusted
    · cases htrusted
    · split at htrusted
      · cases htrusted
      · exact htrusted
  have hnot : ¬ db.incompleteOrders.orders.any (isExitOf p.positionId) = true := by
    rw [hclear]
    exact Bool.false_ne_true
  unfold executeExitOrder
  apply closedIn_read rfl
  apply closedIn_read (positions_exec (hquiet _).1 db)
  dsimp only
  rw [(exitTarget_of_open hstored hopen).2 remaining htrusted]
  apply closedIn_read (incompleteOrders_exec (hquiet _).1 db)
  dsimp only
  rw [if_neg hnot, hterms]
  exact reserveExit_closes hquiet hfills hterms hmint htrusted hremaining haccountable hstored _ pf _ db
    hreservable

end Path

/-! ## A turn of the command -/

section Turns

variable {deps : Deps} {env : ℕ → Env} {mint : String}

/-- What only reads the store leaves a closed position closed. -/
theorem closedIn_runS {α : Type} {p : Session α} (hp : Prog.PerformsS (fun o => ¬ o.Writes) p) (i : ℕ)
    (s : SessionState) {db : Db} (h : ClosedIn mint db) :
    ClosedIn mint (Prog.runS world env p i s db).2.1 := by
  have hkeeps : Prog.Triple world env AnyStep AnyStep (fun _ => ClosedIn mint) p
      (fun _ _ => ClosedIn mint) fun _ => ClosedIn mint := by
    refine Prog.triple_of_performs hp fun i o db ho _ hclosed => ⟨trivial, ?_⟩
    unfold ClosedIn at hclosed ⊢
    rw [show (world.exec (env i) o db).2.positions = db.positions from (exec_of_not_writes ho).2.1]
    exact hclosed
  exact hkeeps.ends (i := i) h (Prog.always_of_forall (fun _ _ _ => trivial) _ _ _)

/-- An attempt leaves closed what the exit path has closed. -/
theorem attemptExit_closes {quantity : UInt64} (hquantity : quantity ≠ 0) (i : ℕ) (s : SessionState)
    {db : Db} (h : ClosedIn mint
      (Prog.run world env (executeExitOrder deps mint "manual_exit" s.portfolio) i db).2.1) :
    ClosedIn mint (Prog.runS world env (attemptExit deps mint quantity "manual_exit") i s db).2.1 := by
  unfold attemptExit RiskEngine.authorizeExit
  rw [Prog.runS_get_bind, if_neg hquantity]
  dsimp only
  rw [Prog.runS_get_bind, look_run]
  refine closedIn_runS ?_ _ _ h
  apply Prog.performsS_bind (Prog.performsS_modify _)
  intro _
  split
  · exact Prog.performsS_modify _
  · apply Prog.performsS_bind Prog.performsS_get
    intro s
    apply Prog.performsS_bind (Prog.performsS_modify _)
    intro _
    split
    · exact performsS_orStop (performs_call id)
    · exact Prog.performsS_pure _
  · exact Prog.performsS_pure _
  · exact Prog.performsS_pure _

/-- **A turn that sells closes the position.** -/
theorem exitPosition_closes (hquiet : Quiet env) (hfills : ∀ j, FillsOrders deps (env j))
    (balances : List TokenBalance) (exited i : ℕ) {s : SessionState} {db : Db} {p : Position}
    (hp : s.portfolio.position mint = some p) (hstored : db.positions.find? mint = some p)
    (hopen : p.isOpen = true) (hattempted : attempted balances p mint db = true)
    (hreservable : Reservable deps p (newId (env (i + 5))) db) (haccountable : Accountable p) :
    ClosedIn mint (Prog.runS world env (exitPosition deps balances exited mint) i s db).2.1 := by
  obtain ⟨quantity, terms, hquantity, hterms, hclear⟩ := attempted_iff.mp hattempted
  obtain ⟨remaining, htrusted, hpositive⟩ := hreservable.trusted
  obtain rfl : remaining = quantity := by
    unfold quantityToSell at hquantity
    rw [htrusted] at hquantity
    exact Option.some.inj hquantity
  have hpath := executeExitOrder_closes hquiet hfills hterms htrusted haccountable s.portfolio (i + 1)
    hstored hopen hclear hreservable
  rw [(exitPosition_attempted (fun j => (hquiet j).1) deps balances exited i hp hquantity hterms
    hclear).1, Prog.runS_bind]
  have hattempt := attemptExit_closes hpositive (i + 1) s hpath
  rcases hrun : Prog.runS world env (attemptExit deps mint remaining "manual_exit") (i + 1) s db
    with ⟨⟨r, s'⟩, db', i'⟩
  rw [hrun] at hattempt
  cases r with
  | ok u => exact hattempt
  | error e => exact hattempt

/-- An attempt does not stop the command. -/
theorem attemptExit_ok (deps : Deps) (mint : String) (hquiet : Quiet env) (quantity : UInt64) (i : ℕ)
    (s : SessionState) (db : Db) :
    (Prog.runS world env (attemptExit deps mint quantity "manual_exit") i s db).1.1 = .ok () := by
  unfold attemptExit
  rw [Prog.runS_get_bind]
  split
  · rfl
  · rw [Prog.runS_get_bind, look_run, Prog.runS_modify_bind]
    split
    · rfl
    · rw [Prog.runS_get_bind, Prog.runS_modify_bind]
      split
      · have hlatched := (hquiet (Prog.run world env (executeExitOrder deps mint "manual_exit"
          s.portfolio) i db).2.2).1
        rw [orStop_run]
        exact congrArg Prod.fst (statement_of_unfaulted hlatched ((), _) _)
      · rfl
    · rfl
    · rfl

/-- A turn does not stop the command. -/
theorem exitPosition_ok (hquiet : Quiet env) (balances : List TokenBalance) (exited i : ℕ)
    (s : SessionState) (db : Db) :
    ∃ n, (Prog.runS world env (exitPosition deps balances exited mint) i s db).1.1 = .ok n := by
  cases hp : s.portfolio.position mint with
  | none =>
      refine ⟨exited, ?_⟩
      unfold exitPosition
      rw [Prog.runS_get_bind, hp]
      rfl
  | some p =>
      by_cases hattempted : attempted balances p mint db = true
      · obtain ⟨quantity, terms, hquantity, hterms, hclear⟩ := attempted_iff.mp hattempted
        refine ⟨exited + 1, ?_⟩
        rw [(exitPosition_attempted (fun j => (hquiet j).1) deps balances exited i hp hquantity hterms
          hclear).1, Prog.runS_bind]
        have hok := attemptExit_ok deps mint hquiet quantity (i + 1) s db
        rcases hrun : Prog.runS world env (attemptExit deps mint quantity "manual_exit") (i + 1) s db
          with ⟨⟨r, s'⟩, db', i'⟩
        rw [hrun] at hok
        obtain rfl : r = .ok () := hok
        rfl
      · exact ⟨exited,
          (exitPosition_skipped (fun j => (hquiet j).1) deps balances exited i hp hattempted).1⟩

end Turns

/-! ## The command -/

section Command

variable {deps : Deps} {env : ℕ → Env} {i : ℕ} {db : Db}

/-- The store that the command leaves. -/
def storeAfterExits (deps : Deps) (env : ℕ → Env) (i : ℕ) (db : Db) : Db :=
  (Prog.run world env (exitAllPositions deps) i db).2.1

/-- The command ends with the store of its loop. -/
theorem storeAfterExits_eq (hquiet : Quiet env) :
    storeAfterExits deps env i db = (Prog.runS world env (exitLoop deps env i db)
      (loopIndex deps env i db) (operatorSession deps db.loadPortfolio) db).2.1 := by
  obtain ⟨hdb, -⟩ := fetchBalances_run deps env i db
  have hpositions : Prog.run world env Store.positions i db = (.ok db.positions.rows, db, i + 1) :=
    congrArg (fun r : Except String (List Position) × Db => (r.1, r.2, i + 1))
      (positions_exec (hquiet i).1 db)
  unfold storeAfterExits exitAllPositions
  rw [Prog.run_bind, hpositions]
  dsimp only
  rw [Prog.run_bind]
  refine (congrArg (fun r : Except String ℕ × Db × ℕ => r.2.1) (Prog.run_bind _ _ _ _ _ _)).trans ?_
  change (Prog.run world env ((ExceptT.run (exitLoop deps env i db)).run
    (operatorSession deps db.loadPortfolio) >>= fun r => pure r.1) (loopIndex deps env i db)
      (Prog.run world env (fetchBalances deps) (i + 2) db).2.1).2.1 = _
  rw [hdb, Prog.run_bind]
  rfl

end Command

/-- **The operator's exit closes what it sells.** If every statement succeeds, and the executor quotes
every order within the impact limit and fills it completely at a known value, the command takes one turn
for every open position and returns a count; and each position that is attempted and reservable at its
turn, and has a cost basis and a non-zero entry quantity, is closed at the end with nothing remaining. -/
theorem exit_all_closes (deps : Deps) (env : ℕ → Env) (i : ℕ) (db : Db) (hquiet : Quiet env)
    (hfills : ∀ j, FillsOrders deps (env j)) :
    (∃ n, (Prog.run world env (exitAllPositions deps) i db).1 = .ok n) ∧
      ((exitTurns deps env i db).map Prog.Turn.elem).Perm
        (db.loadPortfolio.openPositions.map Position.mint) ∧
      ∀ t ∈ exitTurns deps env i db, soldAt deps env i db t = true →
        (∀ p, db.positions.find? t.elem = some p → Accountable p) →
          ClosedIn t.elem (storeAfterExits deps env i db) := by
  have hfault : ∀ j, (env j).fault = none := fun j => (hquiet j).1
  obtain ⟨n, hn⟩ := Prog.foldlM_ok (fun exited mint j s db' =>
    exitPosition_ok hquiet (fetchedBalances deps env i db) exited j s db') (exitMints env i db) 0
    (loopIndex deps env i db) (operatorSession deps db.loadPortfolio) db
  refine ⟨⟨n, (exitAllPositions_run deps i db hfault).1.trans hn⟩, ?_, fun t ht hsold hcosts => ?_⟩
  · rw [show (exitTurns deps env i db).map Prog.Turn.elem = exitMints env i db from
      Prog.turns_elems _ _ _ _ _ hn]
    exact exitMints_perm env i db
  · obtain ⟨p, hp, hopen, hmemory, hstored⟩ := untouched_turn ht
    unfold soldAt at hsold
    rw [hp, Option.any_some, Bool.and_eq_true_iff, decide_eq_true_eq] at hsold
    rw [storeAfterExits_eq hquiet]
    have hmints : Untouched db (exitMints env i db) (operatorSession deps db.loadPortfolio) db :=
      untouched_start
    refine Prog.turns_achieve (K := ClosedIn) ?_ _ hmints.1 _ _ _ _ t ht ?_
    · rintro mint other exited j s db' hother ⟨q, hq, hclosed, hnothing⟩
      have hleaves : Prog.Triple world env AnyStep AnyStep _ (exitPosition deps _ exited other) _ _ :=
        exitPosition_leaves hother deps (fetchedBalances deps env i db) exited
          (s.portfolio.position mint) (some q)
      have hends := hleaves.ends (i := j) ⟨rfl, hq⟩
        (Prog.always_of_forall (fun _ _ _ => trivial) _ _ _)
      exact ⟨q, hends.2, hclosed, hnothing⟩
    · exact exitPosition_closes hquiet hfills _ _ _ hmemory hstored hopen hsold.1 hsold.2 (hcosts p hp)

/-- The sample world, whose executor sells for ten USD whatever it is asked to. -/
def fillingEnv : Env := { sampleEnv with
  answer := fun
    | .execute request => .ok (swapFill request.orderId request.quote.inputAmount 10 10 0)
    | o => sampleAnswer o }

/-- The sample's outside world fills orders completely. -/
theorem fillingEnv_fills : FillsOrders (sampleDeps false) fillingEnv where
  quote inputMint outputMint amount _ := ⟨sampleQuote inputMint outputMint amount, rfl, rfl, UInt32.zero_le⟩
  execute request := ⟨swapFill request.orderId request.quote.inputAmount 10 10 0, rfl, rfl, rfl⟩

/-- The sample position is sold and closed. -/
theorem exit_all_closes_sample :
    ClosedIn "token" (storeAfterExits (sampleDeps false) (fun _ => fillingEnv) 0 sampleDb) := by
  obtain ⟨-, hperm, hclosed⟩ := exit_all_closes (sampleDeps false) (fun _ => fillingEnv) 0 sampleDb
    (fun _ => ⟨rfl, rfl⟩) fun _ => fillingEnv_fills
  have hmem : "token" ∈ (exitTurns (sampleDeps false) (fun _ => fillingEnv) 0 sampleDb).map
      Prog.Turn.elem := hperm.mem_iff.mpr (by decide +kernel)
  obtain ⟨t, ht, helem⟩ := List.mem_map.mp hmem
  have hsold : ∀ t ∈ exitTurns (sampleDeps false) (fun _ => fillingEnv) 0 sampleDb,
      soldAt (sampleDeps false) (fun _ => fillingEnv) 0 sampleDb t = true := by decide +kernel
  rw [← helem]
  apply hclosed t ht (hsold t ht)
  intro p hp
  have hstored : sampleDb.positions.find? "token" = some samplePosition := by decide +kernel
  rw [helem, hstored] at hp
  cases hp
  exact ⟨rfl, by decide +kernel⟩

end SolanaBot.Analysis
