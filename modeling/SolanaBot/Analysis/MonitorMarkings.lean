import SolanaBot.Library.Triples
import SolanaBot.Library.Turns
import SolanaBot.Model.ExitMonitor

/-!
# The marks of the exit monitor

A turn of the exit monitor over a position is cut where the mark is known (`monitorPosition_cut`): it comes
from a quote, cached or fetched now, and from the quantity of the loaded record (`Marking`). A run of the
monitor among other tasks has its markings at the turns of its ticks (`MonitorRun.marking`).

The cache is filled by the markings and by nothing else: the quote of a cached marking was fetched in a turn
over the same mint before (`cached_fetchedBefore`).
-/

set_option autoImplicit false

namespace SolanaBot.Analysis

open SolanaBot.Library SolanaBot.Model

/-! ## Cuts -/

/-- A mark that a turn applies, and what it is computed from. -/
structure Marking where
  mint : String
  /-- The loaded record, before the mark. -/
  position : Position
  terms : ExitTerms
  remaining : UInt64
  quote : Quote
  /-- Whether the quote was fetched in this turn. -/
  fetched : Bool
  mark : Decimal
  marked : markFromQuote quote terms remaining = some mark

/-- The marking that a quote gives, if it gives one. -/
def Marking.of? (mint : String) (position : Position) (terms : ExitTerms) (remaining : UInt64)
    (quote : Quote) (fetched : Bool) : Option Marking :=
  match h : markFromQuote quote terms remaining with
  | none => none
  | some mark => some ⟨mint, position, terms, remaining, quote, fetched, mark, h⟩

section Of

variable (mint : String) (position : Position) {terms : ExitTerms} {remaining : UInt64} {quote : Quote}
  (fetched : Bool)

/-- A quote without a mark makes no marking. -/
theorem Marking.of?_none (h : markFromQuote quote terms remaining = none) :
    Marking.of? mint position terms remaining quote fetched = none := by
  unfold Marking.of?
  split
  · rfl
  · rename_i mark hmark
    rw [h] at hmark
    cases hmark

/-- A quote with a mark makes the marking of the position with it. -/
theorem Marking.of?_some {mark : Decimal} (h : markFromQuote quote terms remaining = some mark) :
    Marking.of? mint position terms remaining quote fetched =
      some ⟨mint, position, terms, remaining, quote, fetched, mark, h⟩ := by
  unfold Marking.of?
  split
  · rename_i hmark
    rw [h] at hmark
    cases hmark
  · rename_i mark' hmark
    have hsame : mark' = mark := Option.some.inj (hmark.symm.trans h)
    subst hsame
    rfl

end Of

/-- The quote to be cached after the marking. -/
def Marking.toCache (m : Marking) : Option Quote := if m.fetched then some m.quote else none

/-- The quote that a turn marks with, and whether it was fetched now. -/
def markQuote (deps : Deps) (mint : String) (terms : ExitTerms) (remaining : UInt64) :
    Monitor (Option (Quote × Bool)) := do
  match ← cachedQuote deps mint with
  | some q => return some (q, false)
  | none =>
      match ← Monitor.look (Executor.quote mint terms.baseMint remaining
          deps.config.execution.slippageBps) with
      | .error _ => return none
      | .ok q => return some (q, true)

/-- A turn of the exit monitor up to its mark. -/
def untilMark (deps : Deps) (mint : String) : Monitor (Option Marking) := do
  match (← get).portfolio.position mint with
  | none => return none
  | some position =>
      if position.state ≠ .open then return none
      else
        match position.trustedRemaining with
        | none => return none
        | some remaining =>
            let incomplete ← Monitor.orStop Store.incompleteOrders
            if incomplete.orders.any (isExitOf position.positionId) then return none
            else
              match exitTerms position with
              | .error _ => return none
              | .ok terms =>
                  match ← markQuote deps mint terms remaining with
                  | none => return none
                  | some (q, fetched) => return Marking.of? mint position terms remaining q fetched

/-- The end of a turn: the mark is applied, and a reason to exit is looked for. -/
def applyMark (deps : Deps) (mint : String) (m : Marking) : Monitor Unit := do
  if ← saveMark mint m.mark m.toCache then
    monitorExit deps m.position mint m.remaining m.terms.tokenDecimals m.mark m.quote.priceImpactBps
  else return ()

/-- The mark of a turn is that of its quote. -/
theorem monitorMark_cut (deps : Deps) (mint : String) (position : Position) (terms : ExitTerms)
    (remaining : UInt64) :
    monitorMark deps mint terms remaining = (do
      match ← markQuote deps mint terms remaining with
      | none => return none
      | some (q, fetched) =>
          let m? := Marking.of? mint position terms remaining q fetched
          return m?.map fun m => (m.mark, m.quote.priceImpactBps, m.toCache)) := by
  have hof : ∀ q fetched, (markFromQuote q terms remaining).map
      (fun mark => (mark, q.priceImpactBps, if fetched then some q else none)) =
      (Marking.of? mint position terms remaining q fetched).map
        fun m => (m.mark, m.quote.priceImpactBps, m.toCache) := by
    intro q fetched
    cases hmark : markFromQuote q terms remaining with
    | none =>
        rw [Marking.of?_none mint position fetched hmark]
        rfl
    | some mark =>
        rw [Marking.of?_some mint position fetched hmark]
        rfl
  unfold monitorMark markQuote
  rw [bind_assoc]
  refine congrArg _ (funext fun cached => ?_)
  cases cached with
  | some q => exact congrArg pure (hof q false)
  | none =>
      dsimp only
      rw [bind_assoc]
      refine congrArg _ (funext fun answer => ?_)
      cases answer with
      | error e => rfl
      | ok q => exact congrArg pure (hof q true)

/-- A turn of the exit monitor finds a mark and applies it. -/
theorem monitorPosition_cut (deps : Deps) (mint : String) :
    monitorPosition deps mint = (do
      match ← untilMark deps mint with
      | none => return ()
      | some m => applyMark deps mint m) := by
  unfold monitorPosition untilMark
  rw [bind_assoc]
  refine congrArg _ (funext fun s => ?_)
  cases s.portfolio.position mint with
  | none => rfl
  | some position =>
      dsimp only
      by_cases hopen : position.state ≠ .open
      · rw [if_pos hopen, if_pos hopen]
        rfl
      · rw [if_neg hopen, if_neg hopen]
        cases position.trustedRemaining with
        | none => rfl
        | some remaining =>
            dsimp only
            rw [bind_assoc]
            refine congrArg _ (funext fun incomplete => ?_)
            by_cases hflight : incomplete.orders.any (isExitOf position.positionId) = true
            · rw [if_pos hflight, if_pos hflight]
              rfl
            · rw [if_neg hflight, if_neg hflight]
              cases exitTerms position with
              | error r => rfl
              | ok terms =>
                  dsimp only
                  rw [monitorMark_cut deps mint position, bind_assoc, bind_assoc]
                  refine congrArg _ (funext fun used => ?_)
                  rcases used with _ | ⟨q, fetched⟩
                  · rfl
                  · dsimp only
                    rw [pure_bind, pure_bind]
                    cases hmark : markFromQuote q terms remaining with
                    | none =>
                        rw [Marking.of?_none mint position fetched hmark]
                        rfl
                    | some mark =>
                        rw [Marking.of?_some mint position fetched hmark]
                        rfl

/-! ## What a turn leaves of the monitor's state -/

/-- Started in a state of the monitor with `P`, among others who do what they like, a part of a tick ends
with `Q`, or with `E` after an error. -/
def EndsIn {α : Type} (P : MonitorState → Prop) (p : Monitor α) (Q : α → MonitorState → Prop)
    (E : MonitorState → Prop) : Prop :=
  ∀ env, Prog.Triple world.among env (fun _ _ _ => True) (fun _ _ _ => True) (fun l _ => P l) p
    (fun a l _ => Q a l) (fun l _ => E l)

section EndsIn

variable {α β : Type} {P : MonitorState → Prop} {E : MonitorState → Prop}

/-- What a part ends in, a run of it ends in. -/
theorem EndsIn.run {p : Monitor α} {Q : α → MonitorState → Prop} (h : EndsIn P p Q E)
    (env : ℕ → Env × (Db → Db)) (i : ℕ) {l : MonitorState} (db : Db) (hl : P l) :
    match Prog.runS world.among env p i l db with
    | ((.ok a, l'), _, _) => Q a l'
    | ((.error _, l'), _, _) => E l' := by
  obtain ⟨-, hend⟩ := h env i l db hl (Prog.always_of_forall (fun _ _ _ => trivial) _ _ _)
  rcases hrun : Prog.runS world.among env p i l db with ⟨⟨r, l'⟩, db', i'⟩
  rw [hrun] at hend
  cases r <;> exact hend

/-- What holds in the end, after an error or not. -/
theorem EndsIn.ends {p : Monitor α} {I : MonitorState → Prop} (h : EndsIn P p (fun _ => I) I)
    (env : ℕ → Env × (Db → Db)) (i : ℕ) {l : MonitorState} (db : Db) (hl : P l) :
    I (Prog.runS world.among env p i l db).1.2 :=
  Prog.Triple.ends (h env) hl (Prog.always_of_forall (fun _ _ _ => trivial) _ _ _)

/-- A value ends in what holds of it. -/
theorem endsIn_pure {a : α} {Q : α → MonitorState → Prop} (h : ∀ l, P l → Q a l) :
    EndsIn P (pure a) Q E :=
  fun _ => Prog.triple_pure fun l _ => h l

/-- Two parts end in what the second ends in. -/
theorem endsIn_bind {p : Monitor α} {f : α → Monitor β} {M : α → MonitorState → Prop}
    {Q : β → MonitorState → Prop} (hp : EndsIn P p M E) (hf : ∀ a, EndsIn (M a) (f a) Q E) :
    EndsIn P (p >>= f) Q E :=
  fun env => Prog.triple_bind (hp env) fun a => hf a env

/-- Reading the monitor's state changes nothing. -/
theorem endsIn_get : EndsIn P (get : Monitor MonitorState) (fun l l' => l' = l ∧ P l) E :=
  fun _ => Prog.triple_get fun _ _ h => ⟨rfl, h⟩

/-- The state that was read is not needed. -/
theorem endsIn_read : EndsIn P (get : Monitor MonitorState) (fun _ => P) E :=
  fun _ => Prog.triple_get fun _ _ h => h

/-- A change ends in the changed state. -/
theorem endsIn_modify {g : MonitorState → MonitorState} {Q : MonitorState → Prop}
    (h : ∀ l, P l → Q (g l)) : EndsIn P (modify g : Monitor PUnit) (fun _ => Q) E :=
  fun _ => Prog.triple_modify fun l _ => h l

/-- Operations leave the state of the monitor alone. -/
theorem endsIn_look (t : Model.Task α) : EndsIn P (Monitor.look t) (fun _ => P) E :=
  fun _ => Prog.triple_lift fun _ => Prog.task_of_ops t fun _ _ _ _ h => ⟨trivial, h⟩

/-- A task that can end the turn changes nothing. -/
theorem endsIn_orStop (t : Model.Task (Except String α)) :
    EndsIn P (Monitor.orStop t) (fun _ => P) P := by
  unfold Monitor.orStop
  apply endsIn_bind (endsIn_look t)
  intro r
  cases r with
  | ok a => exact endsIn_pure fun _ h => h
  | error e => exact fun _ => Prog.triple_throw fun _ _ h => h

end EndsIn

section Turn

variable (deps : Deps) (mint : String)

/-- A quote from the cache is that of the mint. -/
theorem cachedQuote_endsIn (l₀ : MonitorState) :
    EndsIn (· = l₀) (cachedQuote deps mint)
      (fun r l => l = l₀ ∧ ∀ q, r = some q → ∃ c, l₀.quoteCache.find? mint = some c ∧ c.quote = q)
      (· = l₀) := by
  unfold cachedQuote
  dsimp only
  split
  · exact endsIn_pure fun l h => ⟨h, fun q hq => by cases hq⟩
  · apply endsIn_bind endsIn_get
    intro s
    cases hfind : s.quoteCache.find? mint with
    | none => exact endsIn_pure fun l h => ⟨h.1.trans h.2, fun q hq => by cases hq⟩
    | some c =>
        apply endsIn_bind (endsIn_look _)
        intro t
        split
        · refine endsIn_pure fun l h => ⟨h.1.trans h.2, fun q hq => ?_⟩
          cases hq
          exact ⟨c, h.2 ▸ hfind, rfl⟩
        · exact endsIn_pure fun l h => ⟨h.1.trans h.2, fun q hq => by cases hq⟩

/-- The quote for a mark is a cached one unless it is fetched. -/
theorem markQuote_endsIn (terms : ExitTerms) (remaining : UInt64) (l₀ : MonitorState) :
    EndsIn (· = l₀) (markQuote deps mint terms remaining)
      (fun r l => l = l₀ ∧
        ∀ q, r = some (q, false) → ∃ c, l₀.quoteCache.find? mint = some c ∧ c.quote = q)
      (· = l₀) := by
  unfold markQuote
  apply endsIn_bind (cachedQuote_endsIn deps mint l₀)
  intro cached
  cases cached with
  | some q =>
      refine endsIn_pure fun l h => ⟨h.1, fun q' hq' => ?_⟩
      cases hq'
      exact h.2 q rfl
  | none =>
      dsimp only
      apply endsIn_bind (endsIn_look _)
      intro answer
      cases answer with
      | error e => exact endsIn_pure fun l h => ⟨h.1, fun q hq => by cases hq⟩
      | ok q => exact endsIn_pure fun l h => ⟨h.1, fun q hq => by cases hq⟩

/-- Up to its mark a turn changes nothing. A mark without a fetched quote is that of the cached one. -/
theorem untilMark_endsIn (l₀ : MonitorState) :
    EndsIn (· = l₀) (untilMark deps mint)
      (fun r l => l = l₀ ∧ ∀ m, r = some m → m.mint = mint ∧
        (m.fetched = false → ∃ c, l₀.quoteCache.find? mint = some c ∧ c.quote = m.quote))
      (· = l₀) := by
  have hnone : EndsIn (· = l₀) (pure none : Monitor (Option Marking))
      (fun r l => l = l₀ ∧ ∀ m, r = some m → m.mint = mint ∧
        (m.fetched = false → ∃ c, l₀.quoteCache.find? mint = some c ∧ c.quote = m.quote))
      (· = l₀) := endsIn_pure fun l h => ⟨h, fun m hm => by cases hm⟩
  unfold untilMark
  apply endsIn_bind endsIn_read
  intro s
  cases s.portfolio.position mint with
  | none => exact hnone
  | some position =>
      dsimp only
      by_cases hopen : position.state ≠ .open
      · rw [if_pos hopen]
        exact hnone
      · rw [if_neg hopen]
        cases position.trustedRemaining with
        | none => exact hnone
        | some remaining =>
            apply endsIn_bind (endsIn_orStop _)
            intro incomplete
            by_cases hflight : incomplete.orders.any (isExitOf position.positionId) = true
            · rw [if_pos hflight]
              exact hnone
            · rw [if_neg hflight]
              cases exitTerms position with
              | error r => exact hnone
              | ok terms =>
                  apply endsIn_bind (markQuote_endsIn deps mint terms remaining l₀)
                  intro used
                  rcases used with _ | ⟨q, fetched⟩
                  · exact endsIn_pure fun l h => ⟨h.1, fun m hm => by cases hm⟩
                  · refine endsIn_pure fun l h => ⟨h.1, fun m hm => ?_⟩
                    cases hmark : markFromQuote q terms remaining with
                    | none =>
                        rw [Marking.of?_none mint position fetched hmark] at hm
                        cases hm
                    | some mark =>
                        rw [Marking.of?_some mint position fetched hmark] at hm
                        cases hm
                        refine ⟨rfl, fun hcached => ?_⟩
                        dsimp only at hcached
                        subst hcached
                        exact h.2 q rfl

/-- The entries of a cache are old ones, or the given quote under the given mint. -/
def CacheFrom (old : Table CachedQuote.mint) (mint : String) (fetched : Option Quote)
    (l : MonitorState) : Prop :=
  ∀ c ∈ l.quoteCache.rows, c ∈ old.rows ∨ c.mint = mint ∧ fetched = some c.quote

/-- Saving a mark caches the fetched quote. -/
theorem saveMark_endsIn (mark : Decimal) (fetched : Option Quote) (l₀ : MonitorState) :
    EndsIn (· = l₀) (saveMark mint mark fetched)
      (fun _ => CacheFrom l₀.quoteCache mint fetched) (CacheFrom l₀.quoteCache mint fetched) := by
  have hold : ∀ l : MonitorState, l.quoteCache = l₀.quoteCache →
      CacheFrom l₀.quoteCache mint fetched l := by
    intro l h c hc
    exact .inl (h ▸ hc)
  have hcache : EndsIn (fun l => l.quoteCache = l₀.quoteCache) (cacheQuote mint fetched)
      (fun _ => CacheFrom l₀.quoteCache mint fetched) (CacheFrom l₀.quoteCache mint fetched) := by
    unfold cacheQuote
    cases fetched with
    | none => exact endsIn_pure hold
    | some q =>
        refine endsIn_bind (endsIn_look _) fun t => endsIn_modify fun l h c hc => ?_
        rcases Table.mem_put hc with rfl | hc
        · exact .inr ⟨rfl, rfl⟩
        · exact .inl (h ▸ hc)
  have htrue : EndsIn (fun l => l.quoteCache = l₀.quoteCache)
      (cacheQuote mint fetched >>= fun _ => pure true)
      (fun _ => CacheFrom l₀.quoteCache mint fetched) (CacheFrom l₀.quoteCache mint fetched) :=
    endsIn_bind hcache fun _ => endsIn_pure fun _ h => h
  unfold saveMark
  apply endsIn_bind endsIn_read
  intro s
  refine endsIn_bind (M := fun _ l => l.quoteCache = l₀.quoteCache)
    (endsIn_modify fun l h => by rw [h]) fun _ => ?_
  split
  · exact endsIn_bind (endsIn_look _) fun _ => htrue
  · exact htrue
  · exact endsIn_pure hold

/-- The decision and its exit leave the cache. -/
theorem monitorExit_endsIn (position : Position) (remaining : UInt64) (tokenDecimals : UInt8)
    (mark : Decimal) (impactBps : UInt32) (old : Table CachedQuote.mint) (fetched : Option Quote) :
    EndsIn (CacheFrom old mint fetched)
      (monitorExit deps position mint remaining tokenDecimals mark impactBps)
      (fun _ => CacheFrom old mint fetched) (CacheFrom old mint fetched) := by
  unfold monitorExit
  refine endsIn_bind (endsIn_look _) fun liquidity => endsIn_bind (endsIn_look _) fun invalidated =>
    endsIn_bind (endsIn_look _) fun now => ?_
  cases exitReason position mark (some liquidity) deps.config.risk.minLiquidityUsd invalidated now
      deps.config.strategy with
  | none => exact endsIn_pure fun _ h => h
  | some reason =>
      apply endsIn_bind endsIn_read
      intro s
      exact endsIn_bind (endsIn_look _) fun r => endsIn_modify fun l h => h

/-- What follows a marking leaves the cache with what the marking has cached. -/
theorem applyMark_endsIn (m : Marking) (l₀ : MonitorState) :
    EndsIn (· = l₀) (applyMark deps mint m) (fun _ => CacheFrom l₀.quoteCache mint m.toCache)
      (CacheFrom l₀.quoteCache mint m.toCache) := by
  apply endsIn_bind (saveMark_endsIn mint m.mark m.toCache l₀)
  intro saved
  cases saved with
  | false => exact endsIn_pure fun _ h => h
  | true => exact monitorExit_endsIn deps mint m.position m.remaining _ m.mark _ _ _

end Turn

/-! ## Runs of the monitor -/

/-- A tick up to its loop: the mints in the order of their turns. -/
def beginTick (deps : Deps) : Monitor (List String) := do
  Monitor.look (reconcileStaleOrders deps)
  let stored ← Monitor.orStop Store.positions
  modify fun s => { s with portfolio := Portfolio.empty.load stored }
  let _ ← Monitor.orStop Store.emergencyStop
  let _ ← Monitor.orStop Store.killSwitchReason
  let mints ← Monitor.look (hashOrder ((← get).portfolio.openPositions.map Position.mint))
  return mints.val

/-- A tick begins, and goes over its mints. -/
theorem monitorTick_cut (deps : Deps) :
    monitorTick deps = (do
      let mints ← beginTick deps
      mints.foldlM (fun _ mint => monitorPosition deps mint) ()) := by
  unfold monitorTick beginTick
  simp only [bind_assoc, pure_bind]

/-- A tick up to its turn `k`, if it gets there: whose turn it is. -/
def untilTurn (deps : Deps) (k : ℕ) : Monitor (Option String) := do
  let mints ← beginTick deps
  (mints.take k).foldlM (fun _ mint => monitorPosition deps mint) ()
  return mints[k]?

/-- The monitor up to its tick `t`. -/
def untilTick (deps : Deps) : ℕ → MonitorState → Model.Task MonitorState
  | 0, s => return s
  | t + 1, s => do
      let s ← untilTick deps t s
      let r ← (monitorTick deps).run.run s
      return r.2

/-- The ticks after the first `t` begin where these end. -/
theorem monitorTicks_add (deps : Deps) (t n : ℕ) (s : MonitorState) :
    monitorTicks deps (t + n) s = (do
      let s ← untilTick deps t s
      monitorTicks deps n s) := by
  induction t generalizing n with
  | zero => rw [Nat.zero_add]; rfl
  | succ t ih =>
      rw [Nat.add_right_comm, Nat.add_assoc, ih]
      change _ = (untilTick deps t s >>= fun s => (monitorTick deps).run.run s >>= fun r => pure r.2) >>= _
      rw [bind_assoc]
      refine congrArg _ (funext fun s => ?_)
      rw [bind_assoc]
      rfl

/-- A run of the monitor among others: what its operations meet, the store, and the number of ticks. -/
structure MonitorRun where
  env : ℕ → Env × (Db → Db)
  index : ℕ
  db : Db
  ticks : ℕ

/-- The marking of the turn that a part of a tick ends before. -/
def markingOf (deps : Deps) (env : ℕ → Env × (Db → Db))
    (r : (Except String (Option String) × MonitorState) × Db × ℕ) : Option Marking :=
  match r with
  | ((.ok (some mint), l), db, i) =>
      match (Prog.runS world.among env (untilMark deps mint) i l db).1.1 with
      | .ok m => m
      | .error _ => none
  | _ => none

namespace MonitorRun

/-- Where a tick begins. -/
def start (deps : Deps) (run : MonitorRun) (t : ℕ) : MonitorState × Db × ℕ :=
  Prog.run world.among run.env (untilTick deps t ⟨Table.empty _, Portfolio.empty⟩) run.index run.db

/-- The marking in the turn `k` of the tick `t`, if the run gets there and applies one. -/
def marking (deps : Deps) (run : MonitorRun) (t k : ℕ) : Option Marking :=
  if t < run.ticks then
    let s := run.start deps t
    markingOf deps run.env (Prog.runS world.among run.env (untilTurn deps k) s.2.2 s.1 s.2.1)
  else none

/-- The quote of a cache entry was fetched in a turn before the turn `k` of the tick `t`. -/
def FetchedBefore (deps : Deps) (run : MonitorRun) (t k : ℕ) (c : CachedQuote) : Prop :=
  ∃ t' k' m, (t' < t ∨ t' = t ∧ k' < k) ∧ run.marking deps t' k' = some m ∧
    m.mint = c.mint ∧ m.fetched = true ∧ m.quote = c.quote

end MonitorRun

section Runs

variable (deps : Deps) (env : ℕ → Env × (Db → Db))

/-- The cache grows by the fetched quotes of markings. -/
theorem turn_cache (mint : String) (i : ℕ) (l : MonitorState) (db : Db) :
    ∀ c ∈ (Prog.runS world.among env (monitorPosition deps mint) i l db).1.2.quoteCache.rows,
      c ∈ l.quoteCache.rows ∨
        ∃ m, (Prog.runS world.among env (untilMark deps mint) i l db).1.1 = .ok (some m) ∧
          m.mint = c.mint ∧ m.fetched = true ∧ m.quote = c.quote := by
  have hmark := (untilMark_endsIn deps mint l).run env i db rfl
  intro c hc
  rw [monitorPosition_cut, Prog.runS_bind] at hc
  rcases hrun : Prog.runS world.among env (untilMark deps mint) i l db with ⟨⟨r, l'⟩, db', i'⟩
  rw [hrun] at hmark hc
  rcases r with e | _ | m
  · exact .inl (hmark ▸ hc)
  · exact .inl (hmark.1 ▸ hc)
  · obtain ⟨rfl, hm⟩ := hmark
    obtain ⟨hmint, -⟩ := hm m rfl
    have hfrom := (applyMark_endsIn deps mint m l').ends env i' db' rfl
    rcases hfrom c hc with hold | ⟨hcmint, hfetched⟩
    · exact .inl hold
    · refine .inr ⟨m, rfl, hmint.trans hcmint.symm, ?_⟩
      unfold Marking.toCache at hfetched
      split at hfetched
      · exact ⟨‹_›, Option.some.inj hfetched⟩
      · cases hfetched

/-- The loop of a tick fills the cache in its turns. -/
theorem loop_cache (mints : List String) (i : ℕ) (l : MonitorState) (db : Db) :
    ∀ c ∈ (Prog.runS world.among env
        (mints.foldlM (fun _ mint => monitorPosition deps mint) ()) i l db).1.2.quoteCache.rows,
      c ∈ l.quoteCache.rows ∨
        ∃ turn ∈ Prog.turns world.among env (fun (_ : Unit) mint => monitorPosition deps mint)
            mints () i l db,
          ∃ m, (Prog.runS world.among env (untilMark deps turn.elem) turn.index turn.loc
              turn.shared).1.1 = .ok (some m) ∧
            m.mint = c.mint ∧ m.fetched = true ∧ m.quote = c.quote := by
  induction mints generalizing i l db with
  | nil => exact fun c hc => .inl hc
  | cons mint mints ih =>
      intro c hc
      have hturn := turn_cache deps env mint i l db
      rw [List.foldlM_cons, Prog.runS_bind] at hc
      unfold Prog.turns
      rcases hrun : Prog.runS world.among env (monitorPosition deps mint) i l db with
        ⟨⟨r, l'⟩, db', i'⟩
      rw [hrun] at hc hturn
      cases r with
      | error e =>
          rcases hturn c hc with hold | hfetched
          · exact .inl hold
          · exact .inr ⟨_, List.mem_cons_self .., hfetched⟩
      | ok u =>
          rcases ih i' l' db' c hc with hc' | ⟨turn, hmem, hfetched⟩
          · rcases hturn c hc' with hold | hfetched
            · exact .inl hold
            · exact .inr ⟨_, List.mem_cons_self .., hfetched⟩
          · exact .inr ⟨turn, List.mem_cons_of_mem _ hmem, hfetched⟩

/-- The beginning of a tick leaves the cache. -/
theorem beginTick_endsIn (cache : Table CachedQuote.mint) :
    EndsIn (fun l => l.quoteCache = cache) (beginTick deps) (fun _ l => l.quoteCache = cache)
      (fun l => l.quoteCache = cache) := by
  unfold beginTick
  refine endsIn_bind (endsIn_look _) fun _ => endsIn_bind (endsIn_orStop _) fun stored => ?_
  refine endsIn_bind (M := fun _ l => l.quoteCache = cache) (endsIn_modify fun l h => h) fun _ => ?_
  refine endsIn_bind (endsIn_orStop _) fun _ => endsIn_bind (endsIn_orStop _) fun _ => ?_
  apply endsIn_bind endsIn_read
  intro s
  exact endsIn_bind (endsIn_look _) fun mints => endsIn_pure fun l h => h

variable {deps env}

/-- A tick begins with the cache that it finds. -/
theorem beginTick_cache {i i' : ℕ} {l l' : MonitorState} {db db' : Db} {r : Except String (List String)}
    (h : Prog.runS world.among env (beginTick deps) i l db = ((r, l'), db', i')) :
    l'.quoteCache = l.quoteCache := by
  have hend := (beginTick_endsIn deps l.quoteCache).ends env i db rfl
  rw [h] at hend
  exact hend

/-- The turns of a tick that has begun fill the cache. -/
theorem begun_cache {i i₁ : ℕ} {l l₁ : MonitorState} {db db₁ : Db} {mints : List String}
    (h : Prog.runS world.among env (beginTick deps) i l db = ((.ok mints, l₁), db₁, i₁)) (n : ℕ) :
    ∀ c ∈ (Prog.runS world.among env ((mints.take n).foldlM
        (fun _ mint => monitorPosition deps mint) ()) i₁ l₁ db₁).1.2.quoteCache.rows,
      c ∈ l.quoteCache.rows ∨ ∃ k < n, ∃ m,
        markingOf deps env (Prog.runS world.among env (untilTurn deps k) i l db) = some m ∧
          m.mint = c.mint ∧ m.fetched = true ∧ m.quote = c.quote := by
  intro c hc
  rcases loop_cache deps env (mints.take n) i₁ l₁ db₁ c hc with hold | ⟨turn, hturn, m, hmark, hm⟩
  · exact .inl (beginTick_cache h ▸ hold)
  · obtain ⟨k, helem, hbefore⟩ := Prog.turns_get _ _ _ _ _ turn hturn
    rw [List.getElem?_take] at helem
    by_cases hk : k < n
    · rw [if_pos hk] at helem
      rw [List.take_take, Nat.min_eq_left hk.le] at hbefore
      refine .inr ⟨k, hk, m, ?_, hm⟩
      have hturn : Prog.runS world.among env (untilTurn deps k) i l db =
          ((.ok (some turn.elem), turn.loc), turn.shared, turn.index) := by
        unfold untilTurn
        rw [Prog.runS_bind, h]
        dsimp only
        rw [Prog.runS_bind, hbefore]
        dsimp only
        rw [helem]
        rfl
      unfold markingOf
      rw [hturn]
      dsimp only
      rw [hmark]
    · rw [if_neg hk] at helem
      cases helem

/-- A tick up to its turn `k` fills the cache in the turns before. -/
theorem untilTurn_cache {k : ℕ} {i i' : ℕ} {l l' : MonitorState} {db db' : Db} {o : Option String}
    (h : Prog.runS world.among env (untilTurn deps k) i l db = ((.ok o, l'), db', i')) :
    ∀ c ∈ l'.quoteCache.rows, c ∈ l.quoteCache.rows ∨ ∃ k' < k, ∃ m,
      markingOf deps env (Prog.runS world.among env (untilTurn deps k') i l db) = some m ∧
        m.mint = c.mint ∧ m.fetched = true ∧ m.quote = c.quote := by
  obtain ⟨mints, l₁, db₁, i₁, hbegin, hloop⟩ := Prog.runS_bind_ok _ _ h
  obtain ⟨u, l₂, db₂, i₂, hturns, hdone⟩ := Prog.runS_bind_ok _ _ hloop
  have hcache := begun_cache hbegin k
  rw [hturns] at hcache
  cases hdone
  exact hcache

/-- A tick fills the cache in its turns. -/
theorem monitorTick_cache (i : ℕ) (l : MonitorState) (db : Db) :
    ∀ c ∈ (Prog.runS world.among env (monitorTick deps) i l db).1.2.quoteCache.rows,
      c ∈ l.quoteCache.rows ∨ ∃ k m,
        markingOf deps env (Prog.runS world.among env (untilTurn deps k) i l db) = some m ∧
          m.mint = c.mint ∧ m.fetched = true ∧ m.quote = c.quote := by
  intro c hc
  rw [monitorTick_cut, Prog.runS_bind] at hc
  rcases hbegin : Prog.runS world.among env (beginTick deps) i l db with ⟨⟨r, l₁⟩, db₁, i₁⟩
  rw [hbegin] at hc
  cases r with
  | error e => exact .inl (beginTick_cache hbegin ▸ hc)
  | ok mints =>
      have hcache := begun_cache hbegin mints.length c
      rw [List.take_length] at hcache
      rcases hcache hc with hold | ⟨k, -, hfetched⟩
      · exact .inl hold
      · exact .inr ⟨k, hfetched⟩

end Runs

/-! ## Where a cached quote comes from -/

namespace MonitorRun

variable {deps : Deps} {run : MonitorRun}

/-- A tick starts where the one before it ends. -/
theorem start_succ (deps : Deps) (run : MonitorRun) (t : ℕ) :
    run.start deps (t + 1) =
      let s := run.start deps t
      let r := Prog.runS world.among run.env (monitorTick deps) s.2.2 s.1 s.2.1
      (r.1.2, r.2) := by
  unfold start
  change Prog.run world.among run.env (untilTick deps t _ >>= fun s =>
    (monitorTick deps).run.run s >>= fun r => pure r.2) run.index run.db = _
  rw [Prog.run_bind, Prog.run_bind]
  rfl

/-- The markings of a tick of the run. -/
theorem marking_of_lt {t : ℕ} (ht : t < run.ticks) (k : ℕ) :
    run.marking deps t k = markingOf deps run.env (Prog.runS world.among run.env (untilTurn deps k)
      (run.start deps t).2.2 (run.start deps t).1 (run.start deps t).2.1) :=
  if_pos ht

/-- Whatever is in the cache when a tick begins was fetched in a turn of an earlier tick. -/
theorem start_cache {t : ℕ} (ht : t ≤ run.ticks) :
    ∀ c ∈ (run.start deps t).1.quoteCache.rows, run.FetchedBefore deps t 0 c := by
  induction t with
  | zero => exact fun c hc => absurd hc List.not_mem_nil
  | succ t ih =>
      intro c hc
      rw [start_succ] at hc
      rcases monitorTick_cache _ _ _ c hc with hold | ⟨k, m, hmarking, hm⟩
      · obtain ⟨t', k', m, hbefore, hmarking, hm⟩ := ih (Nat.le_of_succ_le ht) c hold
        exact ⟨t', k', m, .inl (by omega), hmarking, hm⟩
      · rw [← marking_of_lt ht] at hmarking
        exact ⟨t, k, m, .inl (Nat.lt_succ_self t), hmarking, hm⟩

/-- **Cached marks.** The quote of a mark that comes from the cache was fetched for a mark of the same mint
before. -/
theorem cached_fetchedBefore {t k : ℕ} {m : Marking} (hmarking : run.marking deps t k = some m)
    (hcached : m.fetched = false) :
    ∃ c, run.FetchedBefore deps t k c ∧ c.mint = m.mint ∧ c.quote = m.quote := by
  have ht : t < run.ticks := by
    unfold marking at hmarking
    by_contra hlt
    rw [if_neg hlt] at hmarking
    cases hmarking
  rw [marking_of_lt ht] at hmarking
  rcases hturn : Prog.runS world.among run.env (untilTurn deps k) (run.start deps t).2.2
      (run.start deps t).1 (run.start deps t).2.1 with ⟨⟨r, l⟩, db, i⟩
  rw [hturn] at hmarking
  rcases r with e | _ | mint
  · cases hmarking
  · cases hmarking
  · have hmark := (untilMark_endsIn deps mint l).run run.env i db rfl
    unfold markingOf at hmarking
    dsimp only at hmarking
    rcases hrun : Prog.runS world.among run.env (untilMark deps mint) i l db with ⟨⟨r, l'⟩, db', i'⟩
    rw [hrun] at hmarking hmark
    cases r with
    | error e => cases hmarking
    | ok m? =>
        dsimp only at hmarking
        subst hmarking
        obtain ⟨hmint, hfound⟩ := hmark.2 m rfl
        obtain ⟨c, hfind, hquote⟩ := hfound hcached
        refine ⟨c, ?_, (Table.find?_key hfind).trans hmint.symm, hquote⟩
        rcases untilTurn_cache hturn c (Table.find?_mem hfind) with hold | ⟨k', hk', m', hmarking', hm'⟩
        · obtain ⟨t', k', m', hbefore, hmarking', hm'⟩ := start_cache ht.le c hold
          exact ⟨t', k', m', .inl (by omega), hmarking', hm'⟩
        · rw [← marking_of_lt ht] at hmarking'
          exact ⟨t, k', m', .inr ⟨rfl, hk'⟩, hmarking', hm'⟩

end MonitorRun

end SolanaBot.Analysis
