import SolanaBot.Analysis.StoreSteps
import SolanaBot.Analysis.TaskRuns
import SolanaBot.Model.SessionLoop

/-!
# From the candidates to the exits of a tick

A tick registers a quote for every record of its feed before it marks the equity and looks
for exits. A record whose price is not positive, whose token amount is not the text of a
positive integer, or whose price impact is not the text of an integer ends the tick with an
error, and the positions go without their exits (`exits_reached_iff`, `record_stops_exits`).
The loop over the wallet monitor's records skips a record for the first and the third reason,
and stops for the second.
-/

set_option autoImplicit false

namespace SolanaBot.Analysis

open SolanaBot.Library SolanaBot.Model

/-! ## The parts of a tick -/

/-- The tick before it looks at candidates, from the time at which it began. -/
def prepareTick (deps : Deps) (now : Time) : Session Unit := do
  modify (rollDay now)
  refreshSolPrice deps now
  periodicReconciliation deps
  let _ ← look (reconcilePendingOrders deps).run
  readEmergencyStop
  readKillSwitch
  modify fun s => { s with candidates := Table.empty _ }

/-- The tick before it looks at candidates. -/
def beforeIngestion (deps : Deps) : Session Time := do
  let now ← look clock
  prepareTick deps now
  return now

/-- The ingestion of the candidates. -/
def ingestion (deps : Deps) (now : Time) : Session Unit := do
  ingestFeed deps now
  ingestWalletMonitor deps now

/-- The tick up to its exits. -/
def beforeExits (deps : Deps) : Session Unit := do
  let now ← beforeIngestion deps
  ingestion deps now
  markEquity deps

/-- The tick from the exits on. -/
def exitsAndEntries (deps : Deps) : Session Unit := do
  processExits deps
  let s ← get
  if s.emergencyActive || s.risk.killSwitch.tripped then return ()
  else
    let incomplete ← orStop Store.incompleteOrders
    if entriesAllowed deps.config s incomplete.orders then processEntries deps else return ()

/-- A tick is its parts. -/
theorem tick_eq (deps : Deps) :
    tick deps = (do
      beforeExits deps
      exitsAndEntries deps) := by
  unfold tick beforeExits beforeIngestion prepareTick ingestion exitsAndEntries
  simp only [bind_assoc, pure_bind]

/-! ## What a turn over a record needs -/

/-- The amount that the record's value buys is the text of a positive integer. -/
def tokensRead (e : Env) (c : CandidateInput) : Bool :=
  ((e.answer (.parseU64 (rawTokens c))).val.filter fun v => v > 0).isSome

/-- The impact of the record is the text of an integer. -/
def impactRead (e : Env) (c : CandidateInput) : Bool :=
  (e.answer (.parseU32 c.costs.input.avgPriceImpactBps)).val.isSome

/-- A turn over the feed that starts with the operation `i`: where it goes on, unless it stops. A
quote is registered if the SOL price is known. -/
def feedTurn (solPrice : Option Decimal) (env : ℕ → Env) (i : ℕ) (c : CandidateInput) : Option ℕ :=
  if ¬ solPrice.any (0 < ·) then some (i + 1)
  else if 0 < c.market.priceUsd ∧ tokensRead (env (i + 1)) c ∧ impactRead (env (i + 2)) c then
    some (i + 4)
  else none

/-- A turn over the wallet monitor's records. -/
def monitorTurn (solPrice : Option Decimal) (env : ℕ → Env) (i : ℕ) (c : CandidateInput) :
    Option ℕ :=
  if ¬ (solPrice.any (0 < ·) ∧ 0 < c.market.priceUsd) then some (i + 1)
  else if tokensRead (env (i + 1)) c then
    some (if impactRead (env (i + 2)) c then i + 4 else i + 3)
  else none

section Turns

variable {env : ℕ → Env} {s : SessionState}

/-- Storing the last liquidity is one statement. -/
theorem setLastLiquidity_run (i : ℕ) (mint : String) (usd : Decimal) (db : Db) :
    ∃ db', Prog.run world env (Store.setLastLiquidity mint usd) i db =
      (written (env i), db', i + 1) :=
  ⟨_, Prod.ext (statement_fst_written (env i) _ db) rfl⟩

/-- Registering a quote ends after one operation. -/
theorem registerQuote_endsAt (deps : Deps) (c : CandidateInput) (tokens : UInt64)
    (impactBps : UInt32) (source : String) (now : Time) (i : ℕ) :
    Prog.EndsAt world env (registerQuote deps c tokens impactBps source now) i s (some (i + 1)) :=
  fun db => ⟨db, rfl⟩

/-- The token amount, and the rest of the turn. -/
theorem tokenAmount_endsAt {c : CandidateInput} {f : UInt64 → Session Unit} {i : ℕ} {n : Option ℕ}
    (hf : ∀ v, Prog.EndsAt world env (f v) (i + 1) s n) :
    Prog.EndsAt world env (tokenAmount c >>= f) i s
      (if tokensRead (env i) c then n else none) := by
  unfold tokenAmount tokensRead
  rw [bind_assoc]
  refine Prog.endsAt_lift_bind (fun db => ⟨db, rfl⟩) ?_
  cases hread : ((env i).answer (.parseU64 (rawTokens c))).val.filter fun v => v > 0 with
  | none => exact Prog.endsAt_throw _ _ _
  | some v => exact hf v

/-- The impact of the price, and the quote. `missing` is what a turn does without an impact. -/
theorem impact_endsAt {c : CandidateInput} {missing : Session Unit} {f : UInt32 → Session Unit}
    {i : ℕ} {n m : Option ℕ} (hf : ∀ v, Prog.EndsAt world env (f v) (i + 1) s n)
    (hmissing : Prog.EndsAt world env missing (i + 1) s m) :
    Prog.EndsAt world env
      (look (parseU32 c.costs.input.avgPriceImpactBps) >>= fun impact =>
        match impact.val with
        | none => missing
        | some impactBps => f impactBps) i s
      (if impactRead (env i) c then n else m) := by
  unfold impactRead
  refine Prog.endsAt_lift_bind (fun db => ⟨db, rfl⟩) ?_
  change Prog.EndsAt world env
    (match ((env i).answer (.parseU32 c.costs.input.avgPriceImpactBps)).val with
      | none => missing
      | some impactBps => f impactBps) (i + 1) s _
  cases ((env i).answer (.parseU32 c.costs.input.avgPriceImpactBps)).val with
  | none => exact hmissing
  | some v => exact hf v

/-- What a turn does after the price was looked at, with the text of an error or a way to go on
for an unreadable impact. -/
theorem quoted_endsAt {deps : Deps} {c : CandidateInput} {missing : Session Unit} {source : String}
    {now : Time} {i : ℕ} {m : Option ℕ}
    (hmissing : Prog.EndsAt world env missing (i + 2) s m) :
    Prog.EndsAt world env
      (tokenAmount c >>= fun tokens => look (parseU32 c.costs.input.avgPriceImpactBps) >>= fun impact =>
        match impact.val with
        | none => missing
        | some impactBps => registerQuote deps c tokens impactBps source now) i s
      (if tokensRead (env i) c then if impactRead (env (i + 1)) c then some (i + 3) else m
        else none) :=
  tokenAmount_endsAt fun tokens =>
    impact_endsAt (fun impactBps => registerQuote_endsAt deps c tokens impactBps source now (i + 2))
      hmissing

/-- A candidate of the feed ends where its turn says. -/
theorem ingestFeedCandidate_endsAt (deps : Deps) (now : Time) (i : ℕ) (c : CandidateInput) :
    Prog.EndsAt world env (ingestFeedCandidate deps now c) i s
      (feedTurn deps.config.economics.solPriceUsd env i c) := by
  unfold ingestFeedCandidate
  refine Prog.endsAt_lift_bind (fun db => setLastLiquidity_run i _ _ db) ?_
  cases deps.config.economics.solPriceUsd with
  | none => exact Prog.endsAt_pure _ _
  | some solPrice =>
      dsimp only
      by_cases hknown : solPrice ≤ 0
      · have hturn : feedTurn (some solPrice) env i c = some (i + 1) := by
          simp [feedTurn, hknown]
        rw [if_pos hknown, hturn]
        exact Prog.endsAt_pure _ _
      · rw [if_neg hknown]
        by_cases hprice : c.market.priceUsd > 0
        · have hturn : feedTurn (some solPrice) env i c =
              if tokensRead (env (i + 1)) c then
                if impactRead (env (i + 2)) c then some (i + 4) else none
              else none := by
            simp [feedTurn, hknown, hprice, ite_and]
          rw [if_pos hprice, hturn]
          exact quoted_endsAt (Prog.endsAt_throw _ _ _)
        · have hturn : feedTurn (some solPrice) env i c = none := by
            simp [feedTurn, hknown, not_lt.mp hprice]
          rw [if_neg hprice, hturn]
          exact Prog.endsAt_throw _ _ _

/-- A candidate of the wallet monitor ends where its turn says. -/
theorem ingestMonitorCandidate_endsAt (deps : Deps) (now : Time) (i : ℕ) (c : CandidateInput) :
    Prog.EndsAt world env (ingestMonitorCandidate deps now c) i s
      (monitorTurn s.solPriceUsd env i c) := by
  unfold ingestMonitorCandidate
  refine Prog.endsAt_lift_bind (fun db => setLastLiquidity_run i _ _ db) ?_
  refine Prog.endsAt_get_bind ?_
  cases s.solPriceUsd with
  | none => exact Prog.endsAt_pure _ _
  | some solPrice =>
      dsimp only
      by_cases hknown : solPrice ≤ 0
      · have hturn : monitorTurn (some solPrice) env i c = some (i + 1) := by
          simp [monitorTurn, hknown]
        rw [if_pos hknown, hturn]
        exact Prog.endsAt_pure _ _
      · rw [if_neg hknown]
        by_cases hprice : c.market.priceUsd > 0
        · have hturn : monitorTurn (some solPrice) env i c =
              if tokensRead (env (i + 1)) c then
                if impactRead (env (i + 2)) c then some (i + 4) else some (i + 3)
              else none := by
            simp [monitorTurn, hknown, hprice, apply_ite some]
          rw [if_pos hprice, hturn]
          exact quoted_endsAt (Prog.endsAt_pure _ _)
        · have hturn : monitorTurn (some solPrice) env i c = some (i + 1) := by
            simp [monitorTurn, not_lt.mp hprice]
          rw [if_neg hprice, hturn]
          exact Prog.endsAt_pure _ _

end Turns

/-! ## The records of a tick -/

/-- The records that the feed delivers. -/
def feedRecords (deps : Deps) (e : Env) (now : Time) (path : String) : List CandidateInput :=
  e.answer (.collectFromJsonl path now deps.config.rpc.maxDataAgeSecs)

/-- The records that the wallet monitor delivers, if its tick succeeds. -/
def monitorRecords (e : Env) : Except String (List CandidateInput) := e.answer .walletMonitorTick

/-- Where the ingestion of the feed goes on that starts with the operation `i`. -/
def feedEnd (deps : Deps) (env : ℕ → Env) (now : Time) (i : ℕ) : Option ℕ :=
  match feedPath deps.config with
  | none => some i
  | some path =>
      (feedRecords deps (env i) now path).foldlM (feedTurn deps.config.economics.solPriceUsd env)
        (i + 1)

/-- Where the ingestion of the wallet monitor's records goes on. -/
def monitorEnd (s : SessionState) (env : ℕ → Env) (i : ℕ) : Option ℕ :=
  if s.walletMonitor then
    match monitorRecords (env i) with
    | .error _ => some (i + 1)
    | .ok cs => cs.foldlM (monitorTurn s.solPriceUsd env) (i + 1)
  else some i

/-- No record of the feed and of the wallet monitor stops the tick, whose ingestion starts with the
operation `i` in the session state `s`. -/
def RecordsPass (deps : Deps) (env : ℕ → Env) (now : Time) (s : SessionState) (i : ℕ) : Prop :=
  ((feedEnd deps env now i).bind (monitorEnd s env)).isSome

/-- An ingestion that goes on at the given operation with more candidates, or stops. -/
def Ingests (env : ℕ → Env) (p : Session Unit) (i : ℕ) (s : SessionState) (db : Db) :
    Option ℕ → Prop
  | some j => ∃ cs db', Prog.runS world env p i s db = ((.ok (), insertCandidates cs s), db', j)
  | none => ∃ e r, Prog.runS world env p i s db = ((.error e, s), r)

section Ingestion

variable {env : ℕ → Env}

/-- What a loop over records and the insertion of its records leave behind. -/
theorem insert_ingests {p : Session Unit} {i : ℕ} {s : SessionState} {n : Option ℕ}
    (hp : Prog.EndsAt world env p i s n) (cs : List CandidateInput) (db : Db) :
    Ingests env (p >>= fun _ => modify (insertCandidates cs)) i s db n := by
  cases n with
  | none =>
      obtain ⟨e, r, hrun⟩ := hp db
      refine ⟨e, r, ?_⟩
      rw [Prog.runS_bind, hrun]
  | some j =>
      obtain ⟨db', hrun⟩ := hp db
      refine ⟨cs, db', ?_⟩
      rw [Prog.runS_bind, hrun]
      rfl

/-- The ingestion is looked at after an operation that delivers the records. -/
theorem Ingests.of_look {α : Type} {t : Model.Task α} {f : α → Session Unit} {i : ℕ}
    {s : SessionState} {db : Db} {n : Option ℕ}
    (h : Ingests env (f (t.run world env i db).1) (t.run world env i db).2.2 s
      (t.run world env i db).2.1 n) : Ingests env (look t >>= f) i s db n := by
  unfold Ingests at *
  rw [look_run]
  exact h

/-- The feed ends where its turns say. -/
theorem ingestFeed_ingests (env : ℕ → Env) (deps : Deps) (now : Time) (i : ℕ) (s : SessionState) (db : Db) :
    Ingests env (ingestFeed deps now) i s db (feedEnd deps env now i) := by
  unfold ingestFeed feedEnd
  cases feedPath deps.config with
  | none => exact ⟨[], db, rfl⟩
  | some path =>
      refine Ingests.of_look ?_
      exact insert_ingests (Prog.endsAt_foldlM s (feedRecords deps (env i) now path)
        (fun i c _ => ingestFeedCandidate_endsAt deps now i c) (i + 1)) _ db

/-- The wallet monitor ends where its turns say. -/
theorem ingestWalletMonitor_ingests (env : ℕ → Env) (deps : Deps) (now : Time) (i : ℕ)
    (s : SessionState) (db : Db) : Ingests env (ingestWalletMonitor deps now) i s db (monitorEnd s env i) := by
  have hget : Ingests env (ingestWalletMonitor deps now) i s db =
      Ingests env (if s.walletMonitor then look Feed.walletMonitorTick >>= fun r =>
        match r with
        | .error _ => return ()
        | .ok cs => do
            cs.foldlM (fun _ c => ingestMonitorCandidate deps now c) ()
            modify (insertCandidates cs)
        else return ()) i s db := rfl
  rw [hget]
  unfold monitorEnd
  by_cases hmonitor : s.walletMonitor
  · rw [if_pos hmonitor, if_pos hmonitor]
    refine Ingests.of_look ?_
    change Ingests env (match monitorRecords (env i) with
      | .error _ => return ()
      | .ok cs => do
          cs.foldlM (fun _ c => ingestMonitorCandidate deps now c) ()
          modify (insertCandidates cs)) (i + 1) s db _
    cases monitorRecords (env i) with
    | error e => exact ⟨[], db, rfl⟩
    | ok cs =>
        exact insert_ingests (Prog.endsAt_foldlM s cs
          (fun i c _ => ingestMonitorCandidate_endsAt deps now i c) (i + 1)) _ db
  · rw [if_neg hmonitor, if_neg hmonitor]
    exact ⟨[], db, rfl⟩

/-- The ingestion goes on exactly if every record passes. -/
theorem ingestion_ok_iff (deps : Deps) (now : Time) (i : ℕ) (s : SessionState) (db : Db) :
    (Prog.runS world env (ingestion deps now) i s db).1.1 = .ok () ↔
      RecordsPass deps env now s i := by
  unfold ingestion RecordsPass
  have hfeed := ingestFeed_ingests env deps now i s db
  rw [Prog.runS_bind]
  cases hend : feedEnd deps env now i with
  | none =>
      rw [hend] at hfeed
      obtain ⟨e, r, hrun⟩ := hfeed
      rw [hrun]
      simp
  | some j =>
      rw [hend] at hfeed
      obtain ⟨cs, db', hrun⟩ := hfeed
      rw [hrun]
      have hmonitor := ingestWalletMonitor_ingests env deps now j (insertCandidates cs s) db'
      have hsame : monitorEnd (insertCandidates cs s) env j = monitorEnd s env j := rfl
      rw [hsame] at hmonitor
      dsimp only [Option.bind_some]
      cases hend' : monitorEnd s env j with
      | none =>
          rw [hend'] at hmonitor
          obtain ⟨e, r, hrun'⟩ := hmonitor
          rw [hrun']
          simp
      | some k =>
          rw [hend'] at hmonitor
          obtain ⟨cs', db'', hrun'⟩ := hmonitor
          rw [hrun']
          simp

end Ingestion

/-! ## Reaching the exits -/

section Exits

variable {env : ℕ → Env}

/-- Without failing statements, a statement that is passed on with `?` does not stop a tick. -/
theorem orStop_proceeds {α : Type} {t : Model.Task (Except String α)}
    (h : ∀ i db, ∃ a, (t.run world env i db).1 = .ok a) : Prog.Proceeds world env (orStop t) := by
  intro i s db
  obtain ⟨a, ha⟩ := h i db
  exact ⟨a, by rw [orStop_run, ha]⟩

/-- A look goes on. -/
theorem look_proceeds {α : Type} (t : Model.Task α) : Prog.Proceeds world env (look t) :=
  Prog.proceeds_lift t

/-- Without faults a statement succeeds. -/
theorem statement_ok (henv : Quiet env) (i : ℕ) {α : Type} (r : α × Db) (db : Db) :
    (statement (env i) r db).1 = .ok r.1 :=
  congrArg Prod.fst (statement_of_unfaulted (henv i).1 r db)

/-- Reading the kill switch goes on. -/
theorem readKillSwitch_proceeds (henv : Quiet env) : Prog.Proceeds world env readKillSwitch := by
  refine Prog.proceeds_bind (orStop_proceeds fun i db => ⟨_, statement_ok henv i _ db⟩) fun reason => ?_
  cases reason with
  | none => exact Prog.proceeds_pure ()
  | some text => exact Prog.proceeds_modify _

/-- The check of the drawdown goes on. -/
theorem latchDrawdown_proceeds (henv : Quiet env) : Prog.Proceeds world env latchDrawdown := by
  refine Prog.proceeds_bind Prog.proceeds_get fun s => ?_
  split
  · refine Prog.proceeds_bind (orStop_proceeds fun i db => ⟨_, statement_ok henv i _ db⟩)
      fun reason => ?_
    cases reason with
    | none => exact orStop_proceeds fun i db => ⟨_, statement_ok henv i _ db⟩
    | some text => exact Prog.proceeds_pure ()
  · exact Prog.proceeds_pure ()

/-- Marking the equity goes on. -/
theorem markEquity_proceeds (deps : Deps) (henv : Quiet env) :
    Prog.Proceeds world env (markEquity deps) :=
  Prog.proceeds_bind Prog.proceeds_get fun _ =>
    Prog.proceeds_bind (Prog.proceeds_modify _) fun _ =>
      Prog.proceeds_bind (latchDrawdown_proceeds henv) fun _ => Prog.proceeds_modify _

/-- Refreshing the price of SOL goes on. -/
theorem refreshSolPrice_proceeds (deps : Deps) (now : Time) :
    Prog.Proceeds world env (refreshSolPrice deps now) := by
  refine Prog.proceeds_bind Prog.proceeds_get fun s => ?_
  split
  · refine Prog.proceeds_bind (look_proceeds _) fun answer => ?_
    split
    · split
      · exact Prog.proceeds_modify _
      · exact Prog.proceeds_modify _
    · exact Prog.proceeds_modify _
  · exact Prog.proceeds_pure ()

/-- The reconciliation of a tick goes on. -/
theorem periodicReconciliation_proceeds (deps : Deps) :
    Prog.Proceeds world env (periodicReconciliation deps) := by
  unfold periodicReconciliation
  split
  · refine Prog.proceeds_bind (look_proceeds _) fun t => Prog.proceeds_bind Prog.proceeds_get
      fun s => ?_
    split
    · exact Prog.proceeds_bind (look_proceeds _) fun _ =>
        Prog.proceeds_bind (look_proceeds _) fun _ => Prog.proceeds_modify _
    · exact Prog.proceeds_pure ()
  · exact Prog.proceeds_pure ()

/-- Reading the emergency stop goes on. -/
theorem readEmergencyStop_proceeds : Prog.Proceeds world env readEmergencyStop := by
  refine Prog.proceeds_bind (look_proceeds _) fun answer => ?_
  split
  · exact Prog.proceeds_modify _
  · exact Prog.proceeds_modify _
  · exact Prog.proceeds_modify _

/-- The preparation of a tick goes on. -/
theorem prepareTick_proceeds (deps : Deps) (now : Time) (henv : Quiet env) :
    Prog.Proceeds world env (prepareTick deps now) :=
  Prog.proceeds_bind (Prog.proceeds_modify _) fun _ =>
    Prog.proceeds_bind (refreshSolPrice_proceeds deps _) fun _ =>
    Prog.proceeds_bind (periodicReconciliation_proceeds deps) fun _ =>
    Prog.proceeds_bind (look_proceeds _) fun _ =>
    Prog.proceeds_bind readEmergencyStop_proceeds fun _ =>
    Prog.proceeds_bind (readKillSwitch_proceeds henv) fun _ => Prog.proceeds_modify _

/-- The part before the candidates ends with the time at which the tick began. -/
theorem beforeIngestion_ok (deps : Deps) (henv : Quiet env) (i : ℕ) (s : SessionState) (db : Db) :
    (Prog.runS world env (beforeIngestion deps) i s db).1.1 = .ok (env i).clock := by
  obtain ⟨u, hu⟩ := prepareTick_proceeds deps (env i).clock henv (i + 1) s db
  unfold beforeIngestion
  rw [look_run, clock_run]
  dsimp only
  rw [Prog.runS_bind]
  rcases hrun : Prog.runS world env (prepareTick deps (env i).clock) (i + 1) s db with
    ⟨⟨r, s₁⟩, db₁, j⟩
  rw [hrun] at hu
  cases (show r = .ok u from hu)
  rfl

/-- **Reaching the exits.** With a healthy store, a tick gets through equity marking and latching to
its exits exactly if no record of the feed and of the wallet monitor stops it. -/
theorem exits_reached_iff (deps : Deps) (env : ℕ → Env) (henv : Quiet env) (i : ℕ)
    (s : SessionState) (db : Db) :
    (Prog.runS world env (beforeExits deps) i s db).1.1 = .ok () ↔
      RecordsPass deps env (env i).clock (Prog.runS world env (beforeIngestion deps) i s db).1.2
        (Prog.runS world env (beforeIngestion deps) i s db).2.2 := by
  have hstart := beforeIngestion_ok deps henv i s db
  unfold beforeExits
  rw [Prog.runS_bind]
  rcases hrun : Prog.runS world env (beforeIngestion deps) i s db with ⟨⟨r, s₁⟩, db₁, j⟩
  rw [hrun] at hstart
  cases (show r = .ok (env i).clock from hstart)
  dsimp only
  rw [← ingestion_ok_iff deps (env i).clock j s₁ db₁, Prog.runS_bind]
  rcases hrun' : Prog.runS world env (ingestion deps (env i).clock) j s₁ db₁ with
    ⟨⟨r', s₂⟩, db₂, k⟩
  cases r' with
  | error e => exact Iff.rfl
  | ok u =>
      obtain ⟨_, hmark⟩ := markEquity_proceeds deps henv k s₂ db₂
      exact iff_of_true hmark rfl

end Exits

/-! ## A record that stops the tick -/

/-- The integer that a decimal is, if it is one. -/
def integerText (d : Decimal) : Option UInt64 :=
  if dec (UInt64.ofNat d.num.toNat) = d then some (UInt64.ofNat d.num.toNat) else none

/-- A decimal that is read as an integer is that integer. -/
theorem dec_of_integerText {d : Decimal} {v : UInt64} (h : integerText d = some v) : dec v = d := by
  unfold integerText at h
  split at h
  · rename_i hdec
    cases h
    exact hdec
  · cases h

/-- A record of the feed that is worth 10 USD at the given price. -/
def feedRecord (price : Decimal) : CandidateInput :=
  { mint := "token", tokenDecimals := some 0, baseMintDecimals := some 0, inputAmount := 10
    positionUsd := 10, expectedGrossReturnPct := 20
    market :=
      { mint := "token", priceUsd := price, liquidityUsd := 10000, volume24hUsd := 0
        volatilityPct := 10, buySellImbalance := 1, observedAt := 0, receivedAt := 0, slot := none
        priceImpactBps := none }
    safety :=
      { mintAuthorityPresent := false, freezeAuthorityPresent := false, holderTop10Pct := 10
        tokenAgeSecs := 3600, liquidityLockedOrBurned := none, sellable := some true
        routeAvailable := some true, creatorSuspicious := none, abnormalActivity := none
        liquidityChangePct := none, observedAt := 0 }
    wallets := []
    costs := someCostModel
    detectionTimestamp := 0 }

/-- A wallet with a record that qualifies. -/
def sampleWallet (name : String) : WalletStats :=
  { wallet := name, entityId := none, realizedPnlUsd := 0, winRate := 0, avgReturnPct := 0
    medianReturnPct := 0, maxDrawdownPct := 0, trades := 10, recentReturnPct := 0
    concentrationPct := 0, scamExposurePct := 0, score := 80, tier := .qualified, updatedAt := 0
    avgWinPct := none, avgLossPct := none }

/-- A record that the strategy accepts. -/
def tradableRecord : CandidateInput :=
  { feedRecord 2 with wallets := [sampleWallet "wallet-1", sampleWallet "wallet-2"] }

/-- The sample bot with a feed. -/
def feedDeps : Deps :=
  { sampleDeps false with
    config := { sampleConfig with
      runtime := { sampleConfig.runtime with signalFeedPath := some "feed" } } }

/-- The sample world with records in its feed. -/
def feedAnswer (cs : List CandidateInput) : (o : Op) → Res o
  | .collectFromJsonl .. => cs
  | .parseU64 d => ⟨integerText d, fun _ => dec_of_integerText⟩
  | .parseU32 d => ⟨if d = 1 then some 1 else none, by
      intro v hv
      split at hv
      · rename_i hone
        cases hv
        rw [hone]
        rfl
      · cases hv⟩
  | o => sampleAnswer o

/-- An outside world whose feed has these records. -/
def feedEnv (cs : List CandidateInput) : Env := { sampleEnv with answer := feedAnswer cs }

/-- The sample session with the sample position. -/
def holdingSession (deps : Deps) : SessionState :=
  newSessionState deps (Portfolio.empty.load [samplePosition])

/-- A record with an integral amount lets the session come to its exits. -/
theorem exits_reached_iff_sample :
    (Prog.runS world (fun _ => feedEnv [feedRecord 2]) (beforeExits feedDeps) 0
      (holdingSession feedDeps) sampleDb).1.1 = .ok () :=
  (exits_reached_iff feedDeps (fun _ => feedEnv [feedRecord 2]) (fun _ => ⟨rfl, rfl⟩) 0
    (holdingSession feedDeps) sampleDb).mpr (by unfold RecordsPass; decide +kernel)

/-- At a price of 3 USD the amount that 10 USD buy is no integer: the tick ends there and the sample
position, whose market has no liquidity, is not sold. -/
theorem record_stops_exits :
    (Prog.runS world (fun _ => feedEnv [feedRecord 3]) (beforeExits feedDeps) 0
        (holdingSession feedDeps) sampleDb).1.1 = .error "failed to compute token amount for token" ∧
      (Prog.runS world (fun _ => feedEnv [feedRecord 3]) (tick feedDeps) 0
        (holdingSession feedDeps) sampleDb).2.1.allOrders = [] ∧
      (Prog.runS world (fun _ => feedEnv []) (tick feedDeps) 0
        (holdingSession feedDeps) sampleDb).2.1.allOrders.map OrderRecord.kind = [.exit] := by
  decide +kernel

end SolanaBot.Analysis
