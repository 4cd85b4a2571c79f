import Mathlib
import SolanaBot.Analysis.StoreSteps
import SolanaBot.Model.LiveStartup
import SolanaBot.Model.StoreTables

/-!
# The tables refine the store

The typed store `Db` is what the tables of texts mean. Whatever the tasks and the operator's commands
call, in any order, with any failures of the statements: the tables answer as the typed store does, and
no reading of what was written ever fails (`store_refines`). The keys of `kv` do not get in each
other's way, whatever the mints, signals and wallets are called: a scan for the positions finds these
and nothing else (`likePosition_iff`), and different keys have different texts (`KvKey.text_injective`).
-/

set_option autoImplicit false

namespace SolanaBot.Analysis

open SolanaBot.Library SolanaBot.Model

/-! ## The keys of `kv` -/

/-- What the keys of the table `kv` stand for. -/
inductive KvKey where
  | position (mint : String)
  | wallet (address : String)
  | liquidity (mint : String)
  | invalidated (signalId : String)
  | emergencyStop
  | killSwitch
  | day
  | dayStartEquity
  | tradesToday
  | signer

namespace KvKey

/-- The key as it is stored. -/
def text : KvKey → String
  | .position mint => "position:" ++ mint
  | .wallet address => "wallet:" ++ address
  | .liquidity mint => "liquidity:" ++ mint
  | .invalidated signalId => "invalidated:" ++ signalId
  | .emergencyStop => "risk:emergency_stop"
  | .killSwitch => "risk:kill_switch"
  | .day => "runtime:day"
  | .dayStartEquity => "runtime:day_start_equity"
  | .tradesToday => "runtime:trades_today"
  | .signer => "runtime:signer"

/-- The first letter of the stored key. -/
def initial : KvKey → Char
  | .position _ => 'p'
  | .wallet _ => 'w'
  | .liquidity _ => 'l'
  | .invalidated _ => 'i'
  | _ => 'r'

/-- The text of a key begins with its initial. -/
theorem head_text (k : KvKey) : k.text.toList.head? = some k.initial := by
  cases k <;> simp [text, initial]

/-- Different keys are stored under different texts. -/
theorem text_injective : Function.Injective text := by
  intro k k' h
  have hinitial : k.initial = k'.initial := by
    have hhead := head_text k
    rw [h, head_text k', Option.some.injEq] at hhead
    exact hhead.symm
  cases k <;> cases k' <;> first
    | rfl
    | exact absurd h (by decide)
    | simpa [text] using h
    | simp [initial] at hinitial

end KvKey

/-- The scan for positions finds exactly the keys of positions. -/
theorem likePosition_iff (k : KvKey) :
    RawStore.likePosition k.text = true ↔ ∃ mint, k = .position mint := by
  cases k with
  | position mint =>
      refine iff_of_true ?_ ⟨mint, rfl⟩
      unfold RawStore.likePosition KvKey.text
      rw [String.toList_append, List.map_append, List.isPrefixOf_iff_prefix]
      exact List.prefix_append _ _
  | wallet | liquidity | invalidated =>
      refine iff_of_false ?_ (by simp)
      simp [RawStore.likePosition, KvKey.text, List.isPrefixOf]
  | _ => exact iff_of_false (by decide) (by simp)

/-! ## What the tables mean -/

/-- The type of the values under a key. -/
abbrev KvKey.Val : KvKey → Type
  | .liquidity _ => Decimal × Time
  | .invalidated _ => Bool
  | .emergencyStop | .killSwitch | .signer => String
  | .day => Int
  | .dayStartEquity => Decimal
  | .tradesToday => UInt32
  | .position _ | .wallet _ => Unit

/-- The keys that are looked up for the typed store. -/
def KvKey.tracked : KvKey → Bool
  | .position _ | .wallet _ => false
  | _ => true

/-- How a row is read. -/
def readRow (S : Serde) : (k : KvKey) → KvRow → Option k.Val
  | .liquidity _, r => (S.value r.value).toOption.bind (RawStore.liquidityOf S)
  | .invalidated _, r => (S.value r.value).toOption.bind fun v => (v.get "invalidated").asBool
  | .emergencyStop, r => (S.value r.value).toOption.bind fun v => some (RawStore.stopReason v)
  | .killSwitch, r => (S.string.decode r.value).toOption
  | .signer, r => (S.string.decode r.value).toOption
  | .day, r => (S.string.decode r.value).toOption.bind fun text => (S.date.decode text).toOption
  | .dayStartEquity, r => (S.decimal.decode r.value).toOption
  | .tradesToday, r => (S.count.decode r.value).toOption
  | .position _, _ | .wallet _, _ => none

/-- The value of the typed store under a key. -/
def stored : (k : KvKey) → LiveStore → Option k.Val
  | .liquidity mint, st =>
      (st.db.liquidity.find? mint).map fun l => (l.liquidityUsd, l.observedAt)
  | .invalidated signalId, st =>
      if st.db.invalidatedSignals.contains signalId then some true else none
  | .emergencyStop, st => st.db.emergencyStop
  | .killSwitch, st => st.db.killSwitch
  | .day, st => st.db.day
  | .dayStartEquity, st => st.db.dayStartEquity
  | .tradesToday, st => st.db.tradesToday
  | .signer, st => st.signer
  | .position _, _ | .wallet _, _ => none

/-- The row of a position. -/
structure PositionRow (S : Serde) (r : KvRow) (p : Position) : Prop where
  key : r.key = (KvKey.position p.mint).text
  value : S.position.decode r.value = .ok p

/-- The row of an order. -/
structure OrderShown (S : Serde) (r : StoredOrder) (o : OrderRow) : Prop where
  id : r.id = o.payload.id
  idempotencyKey : r.idempotencyKey = o.idempotencyKey
  state : r.state = o.payload.state.toText
  payload : S.order.decode r.payload = .ok o.payload

/-- The row of a fill. -/
structure FillShown (S : Serde) (r : StoredFill) (f : Fill) : Prop where
  orderId : r.orderId = f.orderId
  payload : S.fill.decode r.payload = .ok f

/-- The tables mean the typed store. -/
structure Represents (S : Serde) (s : RawStore) (st : LiveStore) : Prop where
  positions : s.kv.Shows (fun r => RawStore.likePosition r.key) (PositionRow S) st.db.positions
  orders : s.orders.Shows (fun _ => true) (OrderShown S) st.db.orders
  fills : s.fills.Shows (fun _ => true) (FillShown S) st.db.fills
  values : ∀ k : KvKey, k.tracked = true → s.kv.Looks k.text (readRow S k) (stored k st)

/-- The store of a live bot on a new file. -/
def newStore : LiveStore := { signer := none, db := .new }

/-- A new file means an empty store. -/
theorem represents_new (S : Serde) : Represents S .new newStore where
  positions := Table.shows_empty
  orders := Table.shows_empty
  fills := Table.shows_empty
  values k _ := by cases k <;> exact Table.looks_empty

section Writes

variable {S : Serde} {s : RawStore} {st st' : LiveStore}

/-- Writing a value under a key other than a position's. -/
theorem Represents.put (h : Represents S s st) {k : KvKey} (hposition : ∀ mint, k ≠ .position mint)
    {value stamp : String}
    (hvalue : k.tracked = true → ∃ a, readRow S k ⟨k.text, value, stamp⟩ = some a ∧
      stored k st' = some a)
    (hothers : ∀ k', k' ≠ k → stored k' st' = stored k' st)
    (hpositions : st'.db.positions = st.db.positions) (horders : st'.db.orders = st.db.orders)
    (hfills : st'.db.fills = st.db.fills) :
    Represents S (s.put k.text value stamp) st' where
  positions := by
    rw [hpositions]
    refine h.positions.put_outside fun r hr => ?_
    have hkey : r.key = k.text := hr
    have hnot : ¬ RawStore.likePosition k.text = true := fun hlike => by
      obtain ⟨mint, hmint⟩ := (likePosition_iff k).mp hlike
      exact hposition mint hmint
    rw [hkey]
    exact Bool.eq_false_of_not_eq_true hnot
  orders := horders.symm ▸ h.orders
  fills := hfills.symm ▸ h.fills
  values k' hk' := by
    by_cases hk : k' = k
    · subst hk
      obtain ⟨a, hread, hstored⟩ := hvalue hk'
      rw [hstored]
      exact Table.looks_put_self (v := (⟨k'.text, value, stamp⟩ : KvRow)) hread
    · rw [hothers k' hk]
      exact (h.values k' hk').put_of_ne fun htext => hk (KvKey.text_injective htext)

/-- Writing a wallet, which the typed store does not keep. -/
theorem Represents.saveWallet (h : Represents S s st) (address value stamp : String) :
    Represents S (s.saveWallet address value stamp) st :=
  h.put (k := .wallet address) (by simp) (fun htracked => by cases htracked) (fun _ _ => rfl) rfl
    rfl rfl

/-- Writing a position. -/
theorem Represents.savePosition (h : Represents S s st) {p : Position} (hp : S.position.Reads p)
    (stamp : String) :
    Represents S (s.savePosition S p stamp) { st with db := st.db.savePosition p } where
  positions := by
    refine h.positions.put (v := ⟨(KvKey.position p.mint).text, S.position.encode p, stamp⟩) (w := p)
      (fun r hr => ?_) ⟨rfl, hp⟩ fun r q hrq => ?_
    · have hkey : r.key = (KvKey.position p.mint).text := hr
      rw [hkey]
      exact (likePosition_iff _).mpr ⟨p.mint, rfl⟩
    · rw [hrq.key]
      exact ⟨fun htext => KvKey.position.inj (KvKey.text_injective htext),
        fun hmint => congrArg (fun m => (KvKey.position m).text) hmint⟩
  orders := h.orders
  fills := h.fills
  values k hk := by
    have hne : k ≠ .position p.mint := fun heq => by
      subst heq
      cases hk
    have hlooks := (h.values k hk).put_of_ne
      (v := (⟨(KvKey.position p.mint).text, S.position.encode p, stamp⟩ : KvRow))
      fun htext => hne (KvKey.text_injective htext)
    cases k <;> exact hlooks

/-- What is read of an observation that was written. -/
theorem liquidityOf_liquidityFields {usd : Decimal} {now : Time} (husd : S.decimalText.Reads usd)
    (hnow : S.timestamp.Reads now) :
    RawStore.liquidityOf S (.obj (jsonObject (RawStore.liquidityFields S usd now))) =
      some (usd, now) := by
  unfold Codec.Reads at husd hnow
  simp [RawStore.liquidityOf, RawStore.liquidityFields, jsonObject, JsonValue.get, JsonMember.asStr,
    husd, hnow, Except.toOption]

/-- Writing an observation of liquidity. -/
theorem Represents.setLastLiquidity (h : Represents S s st) (mint : String) {usd : Decimal}
    {now : Time} (hobject : S.ReadsObject (RawStore.liquidityFields S usd now))
    (husd : S.decimalText.Reads usd) (hnow : S.timestamp.Reads now) (stamp : String) :
    Represents S (s.setLastLiquidity S mint usd now stamp)
      { st with db := st.db.setLastLiquidity mint usd now } := by
  refine h.put (k := .liquidity mint) (by simp) (fun _ => ⟨(usd, now), ?_, ?_⟩) (fun k' hk' => ?_) rfl
    rfl rfl
  · unfold readRow
    dsimp only
    unfold Serde.ReadsObject at hobject
    rw [hobject]
    exact liquidityOf_liquidityFields husd hnow
  · simp [stored, Db.setLastLiquidity]
  · cases k' with
    | liquidity mint' =>
        have hmint : mint' ≠ mint := fun heq => hk' (congrArg _ heq)
        unfold stored Db.setLastLiquidity
        dsimp only
        rw [Table.find?_put, if_neg hmint]
    | _ => rfl

/-- Writing that a signal is invalidated. -/
theorem Represents.setSignalInvalidated (h : Represents S s st) (signalId : String) {now : Time}
    (hobject : S.ReadsObject (RawStore.invalidatedFields S now)) (stamp : String) :
    Represents S (s.setSignalInvalidated S signalId now stamp)
      { st with db := st.db.setSignalInvalidated signalId } := by
  have hcontains : ∀ id, (st.db.setSignalInvalidated signalId).invalidatedSignals.contains id =
      (decide (id = signalId) || st.db.invalidatedSignals.contains id) := by
    intro id
    unfold Db.setSignalInvalidated
    by_cases hid : id = signalId
    · subst hid
      split
      · rename_i hstored
        simp only [hstored, Bool.or_true]
      · simp
    · split
      · simp [hid]
      · simp [hid]
  have hsame : (st.db.setSignalInvalidated signalId).positions = st.db.positions ∧
      (st.db.setSignalInvalidated signalId).orders = st.db.orders ∧
      (st.db.setSignalInvalidated signalId).fills = st.db.fills := by
    unfold Db.setSignalInvalidated
    split <;> exact ⟨rfl, rfl, rfl⟩
  refine h.put (k := .invalidated signalId) (by simp) (fun _ => ⟨true, ?_, ?_⟩) (fun k' hk' => ?_)
    hsame.1 hsame.2.1 hsame.2.2
  · unfold readRow
    dsimp only
    unfold Serde.ReadsObject at hobject
    rw [hobject]
    simp [Except.toOption, JsonValue.get, jsonObject, RawStore.invalidatedFields, JsonMember.asBool]
  · unfold stored
    dsimp only
    rw [hcontains]
    simp
  · cases k' with
    | invalidated id =>
        have hid : id ≠ signalId := fun heq => hk' (congrArg _ heq)
        unfold stored
        dsimp only
        rw [hcontains]
        simp [hid]
    | _ =>
        unfold Db.setSignalInvalidated
        split <;> rfl

/-- Writing the emergency stop. -/
theorem Represents.setEmergencyStop (h : Represents S s st) {reason : String} {now : Time}
    (hobject : S.ReadsObject (RawStore.stopFields S reason now)) (stamp : String) :
    Represents S (s.setEmergencyStop S reason now stamp)
      { st with db := st.db.setEmergencyStop reason } := by
  refine h.put (k := .emergencyStop) (by simp) (fun _ => ⟨reason, ?_, rfl⟩) (fun k' hk' => ?_) rfl rfl rfl
  · unfold readRow
    dsimp only
    unfold Serde.ReadsObject at hobject
    rw [hobject]
    simp [Except.toOption, RawStore.stopReason, JsonValue.get, jsonObject, RawStore.stopFields,
      JsonMember.asStr]
  · cases k' <;> first
      | rfl
      | exact absurd rfl hk'

/-- Removing the emergency stop. -/
theorem Represents.clearEmergencyStop (h : Represents S s st) :
    Represents S s.clearEmergencyStop { st with db := st.db.clearEmergencyStop } where
  positions := h.positions.erase_outside fun r hr => by
    have hkey : r.key = KvKey.emergencyStop.text := hr
    rw [hkey]
    decide
  orders := h.orders
  fills := h.fills
  values k hk := by
    by_cases hstop : k = .emergencyStop
    · subst hstop
      exact Table.looks_erase_self
    · have hne : k.text ≠ KvKey.emergencyStop.text := fun htext => hstop (KvKey.text_injective htext)
      have hlooks := (h.values k hk).erase_of_ne hne
      cases k <;> first
        | exact hlooks
        | exact absurd rfl hstop

/-- Writing the reason of the kill switch. -/
theorem Represents.latchKillSwitch (h : Represents S s st) {reason : String}
    (hreason : S.string.Reads reason) (stamp : String) :
    Represents S (s.latchKillSwitch S reason stamp)
      { st with db := { st.db with killSwitch := some reason } } :=
  h.put (k := .killSwitch) (by simp) (fun _ => ⟨reason, congrArg Except.toOption hreason, rfl⟩)
    (fun k' hk' => by cases k' <;> first | rfl | exact absurd rfl hk') rfl rfl rfl

/-- Writing the signer. -/
theorem Represents.putSigner (h : Represents S s st) {signer : String}
    (hsigner : S.string.Reads signer) (stamp : String) :
    Represents S (s.putSigner S signer stamp) { st with signer := some signer } :=
  h.put (k := .signer) (by simp) (fun _ => ⟨signer, congrArg Except.toOption hsigner, rfl⟩)
    (fun k' hk' => by cases k' <;> first | rfl | exact absurd rfl hk') rfl rfl rfl

/-- Writing the day. -/
theorem Represents.putDay (h : Represents S s st) {day : Int} (hday : S.date.Reads day)
    (htext : S.string.Reads (S.date.encode day)) (stamp : String) :
    Represents S (s.putDay S day stamp) { st with db := { st.db with day := some day } } := by
  refine h.put (k := .day) (by simp) (fun _ => ⟨day, ?_, rfl⟩)
    (fun k' hk' => by cases k' <;> first | rfl | exact absurd rfl hk') rfl rfl rfl
  unfold Codec.Reads at hday htext
  simp [readRow, htext, hday, Except.toOption]

/-- Writing the equity of the start of the day. -/
theorem Represents.putDayStartEquity (h : Represents S s st) {equity : Decimal}
    (hequity : S.decimal.Reads equity) (stamp : String) :
    Represents S (s.putDayStartEquity S equity stamp)
      { st with db := { st.db with dayStartEquity := some equity } } :=
  h.put (k := .dayStartEquity) (by simp) (fun _ => ⟨equity, congrArg Except.toOption hequity, rfl⟩)
    (fun k' hk' => by cases k' <;> first | rfl | exact absurd rfl hk') rfl rfl rfl

/-- Writing the number of trades. -/
theorem Represents.putTradesToday (h : Represents S s st) {trades : UInt32}
    (htrades : S.count.Reads trades) (stamp : String) :
    Represents S (s.putTradesToday S trades stamp)
      { st with db := { st.db with tradesToday := some trades } } :=
  h.put (k := .tradesToday) (by simp) (fun _ => ⟨trades, congrArg Except.toOption htrades, rfl⟩)
    (fun k' hk' => by cases k' <;> first | rfl | exact absurd rfl hk') rfl rfl rfl

/-- Writing a fill. -/
theorem Represents.saveFill (h : Represents S s st) {fill : Fill} (hfill : S.fill.Reads fill) :
    Represents S (s.saveFill S fill) { st with db := st.db.saveFill fill } where
  positions := h.positions
  orders := h.orders
  fills := h.fills.put (v := ⟨fill.orderId, S.fill.encode fill⟩) (w := fill) (fun _ _ => rfl)
    ⟨rfl, hfill⟩ fun r f hrf => by rw [hrf.orderId]
  values k hk := by cases k <;> exact h.values _ hk

/-- The order of a row is found under its id. -/
theorem Represents.findOrder (h : Represents S s st) (id : String) :
    Option.Rel (OrderShown S) (s.orders.find? id) (st.db.orders.find? id) :=
  h.orders.find? (fun _ _ => rfl) fun r o hro => by
    rw [hro.id]
    exact Iff.rfl

/-- Writing a revision of an order. -/
theorem Represents.updateOrder (h : Represents S s st) {o : OrderRecord} (ho : S.order.Reads o)
    (stamp : String) :
    Represents S (s.updateOrder S o stamp) { st with db := st.db.updateOrder o } := by
  have hfound := h.findOrder o.id
  unfold RawStore.updateOrder Db.updateOrder
  cases hraw : s.orders.find? o.id with
  | none =>
      cases htyped : st.db.orders.find? o.id with
      | none => exact h
      | some r =>
          rw [hraw, htyped] at hfound
          cases hfound
  | some r =>
      cases htyped : st.db.orders.find? o.id with
      | none =>
          rw [hraw, htyped] at hfound
          cases hfound
      | some row =>
          rw [hraw, htyped] at hfound
          obtain ⟨hrow⟩ := hfound
          refine ⟨h.positions, ?_, h.fills, fun k hk => ?_⟩
          · refine h.orders.update (fun _ _ => rfl) ⟨rfl, hrow.idempotencyKey, rfl, ho⟩
              fun r' o' hro => ?_
            rw [hro.id]
            exact Iff.rfl
          · cases k <;> exact h.values _ hk

/-- An order is taken in the tables exactly if it is in the typed store. -/
theorem Represents.taken_iff (h : Represents S s st) (o : OrderRecord) :
    (s.orders.rows.any fun r => r.id = o.id ∨ r.idempotencyKey = o.idempotencyKey) = true ↔
      (st.db.orders.find? o.id).isSome ∨
        (st.db.orders.rows.any fun r => r.idempotencyKey = o.idempotencyKey) = true := by
  simp only [List.any_eq_true, decide_eq_true_eq]
  constructor
  · rintro ⟨r, hr, hid | hkey⟩
    · obtain ⟨row, hrow, hshown⟩ := h.orders.exists_right hr rfl
      have hfind := Table.find?_of_mem hrow
      have hrowId : row.id = o.id := hshown.id.symm.trans hid
      rw [hrowId] at hfind
      exact .inl (Option.isSome_of_eq_some hfind)
    · obtain ⟨row, hrow, hshown⟩ := h.orders.exists_right hr rfl
      exact .inr ⟨row, hrow, hshown.idempotencyKey.symm.trans hkey⟩
  · rintro (hid | ⟨row, hrow, hkey⟩)
    · obtain ⟨row, hfind⟩ := Option.isSome_iff_exists.mp hid
      obtain ⟨hrow, hrowId⟩ := (Table.find?_eq_some_iff _ _ _).mp hfind
      obtain ⟨r, hr, -, hshown⟩ := h.orders.exists_left hrow
      exact ⟨r, hr, .inl (hshown.id.trans hrowId)⟩
    · obtain ⟨r, hr, -, hshown⟩ := h.orders.exists_left hrow
      exact ⟨r, hr, .inr (hshown.idempotencyKey.trans hkey)⟩

/-- Reserving an order. -/
theorem Represents.reserveOrder (h : Represents S s st) {o : OrderRecord} (ho : S.order.Reads o)
    (stamp : String) :
    (s.reserveOrder S o stamp).1 = (st.db.reserveOrder o).1 ∧
      Represents S (s.reserveOrder S o stamp).2
        { st with db := (st.db.reserveOrder o).2 } := by
  have htaken := h.taken_iff o
  unfold RawStore.reserveOrder Db.reserveOrder
  cases Db.checkOrder o with
  | error e => exact ⟨rfl, h⟩
  | ok _ =>
      dsimp only
      by_cases hany : (st.db.orders.find? o.id).isSome ∨
          (st.db.orders.rows.any fun r => r.idempotencyKey = o.idempotencyKey) = true
      · rw [if_pos hany, if_pos (htaken.mpr hany)]
        exact ⟨rfl, h⟩
      · rw [if_neg hany, if_neg fun hraw => hany (htaken.mp hraw)]
        refine ⟨rfl, h.positions, ?_, h.fills, fun k hk => ?_⟩
        · refine h.orders.put (fun _ _ => rfl) ⟨rfl, rfl, rfl, ho⟩ fun r' o' hro => ?_
          rw [hro.id]
          exact Iff.rfl
        · cases k <;> exact h.values _ hk

end Writes

/-! ## What the statements read -/

section Reads

variable {S : Serde} {s : RawStore} {st : LiveStore}

/-- A value that is looked up is read. -/
theorem get_of_looks {α : Type} {decode : String → Except String α} {key : String} {a : Option α}
    (h : s.kv.Looks key (fun r => (decode r.value).toOption) a) : s.get decode key = .ok a := by
  unfold Table.Looks at h
  unfold RawStore.get RawStore.text
  cases hrow : s.kv.find? key with
  | none =>
      rw [hrow] at h
      cases a with
      | none => rfl
      | some a => cases h
  | some r =>
      rw [hrow] at h
      cases a with
      | none => cases h
      | some a =>
          have hread : (decode r.value).toOption = some a := Option.some.inj h
          simp only [Option.map_some]
          cases hdecode : decode r.value with
          | error e =>
              rw [hdecode] at hread
              cases hread
          | ok b =>
              rw [hdecode] at hread
              cases hread
              rfl

/-- A value that is read through a part of it. -/
theorem get_bind_of_looks {α β : Type} {decode : String → Except String α} {f : α → Option β} {key : String} {b : Option β}
    (h : s.kv.Looks key (fun r => (decode r.value).toOption.bind f) b) :
    (s.get decode key).map (fun v => v.bind f) = .ok b := by
  unfold Table.Looks at h
  unfold RawStore.get RawStore.text
  cases hrow : s.kv.find? key with
  | none =>
      rw [hrow] at h
      cases b with
      | none => rfl
      | some b => cases h
  | some r =>
      rw [hrow] at h
      cases b with
      | none => cases h
      | some b =>
          have hread : (decode r.value).toOption.bind f = some b := Option.some.inj h
          simp only [Option.map_some]
          cases hdecode : decode r.value with
          | error e =>
              rw [hdecode] at hread
              cases hread
          | ok v =>
              rw [hdecode] at hread
              exact congrArg Except.ok hread

/-- The scan for positions reads the positions of the typed store. -/
theorem Represents.read_positions (h : Represents S s st) :
    s.positions S = .ok st.db.positions.rows := by
  have hrows := S.position.mapM_decode (f := KvRow.value) (g := fun p => p) h.positions
    fun _ _ hrow => hrow.value
  unfold RawStore.positions
  rw [hrows, List.map_id']
  rfl

/-- The scan for incomplete orders compares the texts of their states. -/
theorem mem_incompleteTexts (state : OrderState) :
    ["Pending", "Submitted", "Unknown"].contains state.toText = state.isIncomplete := by
  cases state <;> decide

/-- The scan for incomplete orders reads those of the typed store. -/
theorem Represents.read_incompleteOrders (h : Represents S s st) :
    s.incompleteOrders S = .ok st.db.incompleteOrders.orders := by
  have hselected := List.rel_filter (R := OrderShown S)
    (p := fun r => ["Pending", "Submitted", "Unknown"].contains r.state)
    (q := fun o => o.payload.state.isIncomplete)
    (fun r o hro => by
      dsimp only
      rw [hro.state, mem_incompleteTexts]) h.orders.rows
  have hrows := S.order.mapM_decode (f := StoredOrder.payload) (g := OrderRow.payload) hselected
    fun _ _ hro => hro.payload
  unfold RawStore.incompleteOrders Db.incompleteOrders
  dsimp only
  rw [hrows, List.filter_map]
  rfl

/-- The list of all orders reads those of the typed store, in the order of their updates. -/
theorem Represents.read_allOrders (h : Represents S s st) :
    ∃ os, s.allOrders S = .ok os ∧ os.Perm st.db.allOrders := by
  have hsorted := List.mergeSort_perm s.orders.rows fun r r' => decide (r.updatedAt ≤ r'.updatedAt)
  obtain ⟨rows, hrows, hperm⟩ := List.perm_comp_forall₂ hsorted h.orders.rows
  have hdecoded := S.order.mapM_decode (f := StoredOrder.payload) (g := OrderRow.payload) hrows
    fun _ _ hro => hro.payload
  refine ⟨rows.map OrderRow.payload, ?_, hperm.map _⟩
  unfold RawStore.allOrders
  rw [hdecoded]
  rfl

/-- The fill of an order is read. -/
theorem Represents.read_fillForOrder (h : Represents S s st) (orderId : String) :
    s.fillForOrder S orderId = .ok (st.db.fills.find? orderId) := by
  have hfound : Option.Rel (FillShown S) (s.fills.find? orderId) (st.db.fills.find? orderId) :=
    h.fills.find? (fun _ _ => rfl) fun r f hrf => by rw [hrf.orderId]
  unfold RawStore.fillForOrder
  revert hfound
  generalize st.db.fills.find? orderId = found
  intro hfound
  cases hraw : s.fills.find? orderId with
  | none =>
      rw [hraw] at hfound
      cases hfound
      rfl
  | some r =>
      rw [hraw] at hfound
      obtain ⟨hrf⟩ := hfound
      dsimp only
      rw [hrf.payload]
      rfl

/-- An observation of liquidity is read. -/
theorem Represents.read_lastLiquidity (h : Represents S s st) (mint : String) :
    s.lastLiquidity S mint =
      .ok ((st.db.liquidity.find? mint).map fun l => (l.liquidityUsd, l.observedAt)) :=
  get_bind_of_looks (h.values (.liquidity mint) rfl)

/-- Whether a signal is invalidated is read. -/
theorem Represents.read_isSignalInvalidated (h : Represents S s st) (signalId : String) :
    s.isSignalInvalidated S signalId = .ok (st.db.invalidatedSignals.contains signalId) := by
  have hread := get_bind_of_looks (h.values (.invalidated signalId) rfl)
  have hflag : s.isSignalInvalidated S signalId =
      ((s.get S.value (KvKey.invalidated signalId).text).map fun v =>
        v.bind fun v => (v.get "invalidated").asBool).map fun b => b.getD false := by
    unfold RawStore.isSignalInvalidated KvKey.text
    cases s.get S.value ("invalidated:" ++ signalId) <;> rfl
  rw [hflag, hread]
  unfold stored
  dsimp only
  cases st.db.invalidatedSignals.contains signalId <;> rfl

/-- The reason of the emergency stop is read. -/
theorem Represents.read_emergencyStop (h : Represents S s st) :
    s.emergencyStop S = .ok st.db.emergencyStop := by
  have hread := get_bind_of_looks (h.values .emergencyStop rfl)
  have hreason : s.emergencyStop S = (s.get S.value KvKey.emergencyStop.text).map fun v =>
      v.bind fun v => some (RawStore.stopReason v) := by
    unfold RawStore.emergencyStop KvKey.text
    cases s.get S.value "risk:emergency_stop" with
    | error e => rfl
    | ok v => cases v <;> rfl
  rw [hreason, hread]
  rfl

/-- The reason of the kill switch is read. -/
theorem Represents.read_killSwitch (h : Represents S s st) :
    s.killSwitchReason S = .ok st.db.killSwitch := get_of_looks (h.values .killSwitch rfl)

/-- The signer is read. -/
theorem Represents.read_signer (h : Represents S s st) : s.signer S = .ok st.signer :=
  get_of_looks (h.values .signer rfl)

/-- The day is read. -/
theorem Represents.read_day (h : Represents S s st) : s.day S = .ok st.db.day := by
  have hread := get_bind_of_looks (h.values .day rfl)
  have hday : s.day S = (s.get S.string.decode KvKey.day.text).map fun v =>
      v.bind fun text => (S.date.decode text).toOption := by
    unfold RawStore.day KvKey.text
    cases s.get S.string.decode "runtime:day" with
    | error e => rfl
    | ok v => cases v <;> rfl
  rw [hday, hread]
  rfl

/-- The equity of the start of the day is read. -/
theorem Represents.read_dayStartEquity (h : Represents S s st) :
    s.dayStartEquity S = .ok st.db.dayStartEquity := get_of_looks (h.values .dayStartEquity rfl)

/-- The number of trades is read. -/
theorem Represents.read_tradesToday (h : Represents S s st) :
    s.tradesToday S = .ok st.db.tradesToday := get_of_looks (h.values .tradesToday rfl)

end Reads

/-! ## Transactions -/

section Transactions

variable {S : Serde} {s : RawStore} {st : LiveStore}

/-- The portfolio that a transaction loads has the positions of the typed store. -/
theorem Represents.read_positions_saveFill (h : Represents S s st) (fill : Fill) :
    (s.saveFill S fill).positions S = .ok st.db.positions.rows := by
  have hsame : (s.saveFill S fill).positions S = s.positions S := rfl
  rw [hsame]
  exact h.read_positions

/-- A transaction of a fill answers as on the typed store. -/
theorem Represents.answer_fillTransaction (h : Represents S s st) (faults : TxFaults)
    (t : FillTransaction) (stamp : String) :
    (rawFillTransaction S faults t stamp s).1 = (runFillTransaction faults t st.db).1 := by
  have hpositions := h.read_positions_saveFill t.fill
  unfold rawFillTransaction runFillTransaction
  dsimp only
  cases faults .begin with
  | some e => rfl
  | none =>
  cases faults .insertFill with
  | some e => rfl
  | none =>
  cases faults .loadPortfolio with
  | some e => rfl
  | none =>
  dsimp only
  rw [hpositions]
  unfold Db.loadPortfolio
  dsimp only
  cases t.account (Portfolio.empty.load st.db.positions.rows) with
  | mk r pf =>
  cases r with
  | error e => rfl
  | ok u =>
  cases faults .savePosition with
  | some e => rfl
  | none =>
  dsimp only
  cases t.signed.transition .confirmed with
  | error e => rfl
  | ok placed =>
  dsimp only
  cases faults .updateOrder with
  | some e => rfl
  | none =>
  dsimp only
  cases faults .commit with
  | some e => rfl
  | none => rfl

/-- The tables after a transaction in which no step fails. -/
def rawApplied (S : Serde) (t : FillTransaction) (stamp : String) (db : Db) (s : RawStore) : RawStore :=
  let written := s.saveFill S t.fill
  let written := match (t.account db.loadPortfolio).2.position t.mint with
    | some p => written.savePosition S p stamp
    | none => written
  written.updateOrder S t.confirmed stamp

/-- A transaction leaves the tables as they are, or writes everything. -/
theorem Represents.tables_fillTransaction (h : Represents S s st) (faults : TxFaults)
    (t : FillTransaction) (stamp : String) :
    (rawFillTransaction S faults t stamp s).2 =
      if t.failure faults st.db = none then rawApplied S t stamp st.db s else s := by
  have hpositions := h.read_positions_saveFill t.fill
  unfold rawFillTransaction FillTransaction.failure rawApplied
  dsimp only
  cases faults .begin with
  | some e => rfl
  | none =>
  cases faults .insertFill with
  | some e => rfl
  | none =>
  cases faults .loadPortfolio with
  | some e => rfl
  | none =>
  dsimp only
  rw [hpositions]
  unfold Db.loadPortfolio
  dsimp only
  cases t.account (Portfolio.empty.load st.db.positions.rows) with
  | mk r pf =>
  cases r with
  | error e => rfl
  | ok u =>
  cases faults .savePosition with
  | some e => rfl
  | none =>
  dsimp only
  cases htransition : t.signed.transition .confirmed with
  | error e => rfl
  | ok placed =>
  obtain ⟨rfl, -⟩ := OrderRecord.transition_eq_ok htransition
  dsimp only
  cases faults .updateOrder with
  | some e => rfl
  | none =>
  dsimp only
  cases faults .commit with
  | some e => rfl
  | none => rfl

/-- A transaction of a fill keeps the meaning of the tables. -/
theorem Represents.fillTransaction (h : Represents S s st) {faults : TxFaults} {t : FillTransaction}
    (hread : t.failure faults st.db = none → S.fill.Reads t.fill ∧ S.order.Reads t.confirmed ∧
      ∀ p, (t.account st.db.loadPortfolio).2.position t.mint = some p → S.position.Reads p)
    (stamp : String) :
    Represents S (rawFillTransaction S faults t stamp s).2
      { st with db := (runFillTransaction faults t st.db).2 } := by
  rw [h.tables_fillTransaction]
  cases hfailure : t.failure faults st.db with
  | some f =>
      obtain ⟨e, hrun⟩ := runFillTransaction_failed hfailure
      rw [hrun, if_neg (by simp)]
      exact h
  | none =>
      obtain ⟨-, -, hrun⟩ := runFillTransaction_applied hfailure
      obtain ⟨hfill, horder, hposition⟩ := hread hfailure
      rw [hrun, if_pos rfl]
      unfold rawApplied FillTransaction.applied
      cases hp : (t.account st.db.loadPortfolio).2.position t.mint with
      | none => exact (h.saveFill hfill).updateOrder horder stamp
      | some p => exact ((h.saveFill hfill).savePosition (hposition p hp) stamp).updateOrder horder stamp

/-- The record of a fill without accounting answers as on the typed store, and keeps the meaning of
the tables. -/
theorem Represents.unaccountedFill (h : Represents S s st) {faults : TxFaults} {fill : Fill}
    {order : OrderRecord} (hfill : S.fill.Reads fill)
    (horder : S.order.Reads { unaccountedOrder fill order with state := .failed }) (stamp : String) :
    (rawUnaccountedFill S faults fill order stamp s).1 =
        (recordUnaccountedFill faults fill order st.db).1 ∧
      Represents S (rawUnaccountedFill S faults fill order stamp s).2
        { st with db := (recordUnaccountedFill faults fill order st.db).2 } := by
  unfold rawUnaccountedFill recordUnaccountedFill
  dsimp only
  cases faults .begin with
  | some e => exact ⟨rfl, h⟩
  | none =>
  cases faults .insertFill with
  | some e => exact ⟨rfl, h⟩
  | none =>
  cases htransition : (unaccountedOrder fill order).transition .failed with
  | error e => exact ⟨rfl, h⟩
  | ok o =>
  obtain ⟨rfl, -⟩ := OrderRecord.transition_eq_ok htransition
  cases faults .updateOrder with
  | some e => exact ⟨rfl, h⟩
  | none =>
  cases faults .commit with
  | some e => exact ⟨rfl, h⟩
  | none => exact ⟨rfl, (h.saveFill hfill).updateOrder horder stamp⟩

end Transactions

/-! ## Every call, and every run -/

/-- An answer of the typed store, as a reply. -/
def typed {α : Type} (reply : α → Reply) (r : Except String α × Db) (st : LiveStore) :
    Except String Reply × LiveStore :=
  (r.1.map reply, { st with db := r.2 })

/-- The calls on the typed store. -/
def dbExec (e : Env) (call : StoreCall) (st : LiveStore) : Except String Reply × LiveStore :=
  match call with
  | .positions => typed .positions (exec e .positions st.db) st
  | .savePosition basis p => typed (fun _ => .done) (exec e (.savePosition basis p) st.db) st
  | .reserveOrder seen o => typed .flag (exec e (.reserveOrder seen o) st.db) st
  | .updateOrder copy o => typed (fun _ => .done) (exec e (.updateOrder copy o) st.db) st
  | .incompleteOrders =>
      typed (fun l : IncompleteOrders => .orders l.orders) (exec e .incompleteOrders st.db) st
  | .orders => typed .orders (exec e .orders st.db) st
  | .fillTransaction t =>
      let r := exec e (.fillTransaction t) st.db
      (.ok (.recorded r.1.1 r.1.2), { st with db := r.2 })
  | .unaccountedFill fill order =>
      typed (fun _ => .done) (exec e (.unaccountedFill fill order) st.db) st
  | .fillForOrder orderId => typed .fill (statement e (st.db.fills.find? orderId, st.db) st.db) st
  | .setLastLiquidity mint usd => typed (fun _ => .done) (exec e (.setLastLiquidity mint usd) st.db) st
  | .lastLiquidity mint =>
      typed (fun l : Option LiquidityEvidence =>
        .liquidity (l.map fun l => (l.liquidityUsd, l.observedAt)))
        (exec e (.lastLiquidity mint) st.db) st
  | .setSignalInvalidated id =>
      typed (fun _ => .done) (statement e ((), st.db.setSignalInvalidated id) st.db) st
  | .isSignalInvalidated id => typed .flag (exec e (.isSignalInvalidated id) st.db) st
  | .setEmergencyStop reason =>
      typed (fun _ => .done) (emergencyStopCommand (.ok ()) e.fault (some reason) st.db) st
  | .clearEmergencyStop =>
      typed (fun _ => .done) (clearEmergencyStopCommand (.ok ()) e.fault st.db) st
  | .emergencyStop => typed .text (exec e .emergencyStop st.db) st
  | .latchKillSwitch reason => typed (fun _ => .done) (exec e (.latchKillSwitch reason) st.db) st
  | .killSwitchReason => typed .text (exec e .killSwitchReason st.db) st
  | .putDay day => typed (fun _ => .done) (exec e (.putDay day) st.db) st
  | .getDay => typed .day (exec e .getDay st.db) st
  | .putDayStartEquity equity =>
      typed (fun _ => .done) (exec e (.putDayStartEquity equity) st.db) st
  | .getDayStartEquity => typed .amount (exec e .getDayStartEquity st.db) st
  | .putTradesToday trades => typed (fun _ => .done) (exec e (.putTradesToday trades) st.db) st
  | .getTradesToday => typed .count (exec e .getTradesToday st.db) st
  | .saveWallet _ _ => typed (fun _ => .done) (statement e ((), st.db) st.db) st
  | .putSigner signer =>
      match e.fault with
      | some msg => (.error msg, st)
      | none => (.ok .done, { st with signer := some signer })
  | .getSigner => typed .text (statement e (st.signer, st.db) st.db) st

/-- What a call that succeeds writes is read back. -/
def WritesRead (S : Serde) (e : Env) (st : LiveStore) : StoreCall → Prop
  | .savePosition _ p => e.fault = none → S.position.Reads p
  | .reserveOrder _ o => e.fault = none → S.order.Reads o
  | .updateOrder _ o => e.fault = none → S.order.Reads o
  | .fillTransaction t => t.failure e.txFaults st.db = none →
      S.fill.Reads t.fill ∧ S.order.Reads t.confirmed ∧
        ∀ p, (t.account st.db.loadPortfolio).2.position t.mint = some p → S.position.Reads p
  | .unaccountedFill fill order =>
      S.fill.Reads fill ∧ S.order.Reads { unaccountedOrder fill order with state := .failed }
  | .setLastLiquidity _ usd => e.fault = none →
      S.ReadsObject (RawStore.liquidityFields S usd e.clock) ∧ S.decimalText.Reads usd ∧
        S.timestamp.Reads e.clock
  | .setSignalInvalidated _ => e.fault = none → S.ReadsObject (RawStore.invalidatedFields S e.clock)
  | .setEmergencyStop reason => e.fault = none →
      S.ReadsObject (RawStore.stopFields S reason e.clock)
  | .latchKillSwitch reason => e.fault = none → S.string.Reads reason
  | .putDay day => e.fault = none → S.date.Reads day ∧ S.string.Reads (S.date.encode day)
  | .putDayStartEquity equity => e.fault = none → S.decimal.Reads equity
  | .putTradesToday trades => e.fault = none → S.count.Reads trades
  | .putSigner signer => e.fault = none → S.string.Reads signer
  | _ => True

/-- The same answer. The order of all orders is the one of their last updates in the tables, and an
order that is refused may be refused for two reasons. -/
def SameAnswer : StoreCall → Except String Reply → Except String Reply → Prop
  | .orders, .ok (.orders os), .ok (.orders os') => os.Perm os'
  | .reserveOrder .., answer, answer' => answer.toOption = answer'.toOption
  | _, answer, answer' => answer = answer'

section Calls

variable {S : Serde} {s : RawStore} {st : LiveStore} {e : Env}

/-- A writing statement keeps the meaning of the tables. -/
theorem represents_write {written : RawStore} {db' : Db} (h : Represents S s st)
    (hwritten : e.fault = none → Represents S written { st with db := db' }) :
    (rawWrite e s written).1 = (typed (fun _ => Reply.done) (statement e ((), db') st.db) st).1 ∧
      Represents S (rawWrite e s written).2
        (typed (fun _ => Reply.done) (statement e ((), db') st.db) st).2 := by
  unfold rawWrite statement typed
  cases hfault : e.fault with
  | some msg => exact ⟨rfl, h⟩
  | none => exact ⟨rfl, hwritten hfault⟩

/-- A reading statement answers what the typed store answers. -/
theorem represents_read {α β : Type} {answer : Except String α} {reply : α → Reply} {a : α} {b : β}
    {reply' : β → Reply} (h : Represents S s st) (hanswer : answer = .ok a)
    (hreply : reply a = reply' b) :
    (rawRead e answer reply s).1 = (typed reply' (statement e (b, st.db) st.db) st).1 ∧
      Represents S (rawRead e answer reply s).2
        (typed reply' (statement e (b, st.db) st.db) st).2 := by
  unfold rawRead statement typed
  cases e.fault with
  | some msg => exact ⟨rfl, h⟩
  | none =>
      rw [hanswer]
      exact ⟨congrArg Except.ok hreply, h⟩

/-- Equal answers are the same. -/
theorem SameAnswer.of_eq {call : StoreCall} {answer answer' : Except String Reply}
    (h : answer = answer') : SameAnswer call answer answer' := by
  subst h
  unfold SameAnswer
  split
  · exact List.Perm.refl _
  · rfl
  · rfl

/-- An operator's statement. -/
theorem represents_command {written : RawStore} {f : Db → Db} (h : Represents S s st)
    (hwritten : e.fault = none → Represents S written { st with db := f st.db }) :
    (rawWrite e s written).1 =
        (typed (fun _ => Reply.done) (statementCommand (.ok ()) e.fault f st.db) st).1 ∧
      Represents S (rawWrite e s written).2
        (typed (fun _ => Reply.done) (statementCommand (.ok ()) e.fault f st.db) st).2 := by
  unfold rawWrite statementCommand typed
  cases hfault : e.fault with
  | some msg => exact ⟨rfl, h⟩
  | none => exact ⟨rfl, hwritten hfault⟩

/-- A reservation. -/
theorem represents_reserve (h : Represents S s st) (seen : List OrderRecord) {o : OrderRecord}
    (ho : e.fault = none → S.order.Reads o) :
    SameAnswer (.reserveOrder seen o) (rawExec S e (.reserveOrder seen o) s).1
        (dbExec e (.reserveOrder seen o) st).1 ∧
      Represents S (rawExec S e (.reserveOrder seen o) s).2 (dbExec e (.reserveOrder seen o) st).2 := by
  unfold rawExec dbExec typed exec SameAnswer
  dsimp only
  cases hcheck : Db.checkOrder o with
  | error msg =>
      have hraw : s.reserveOrder S o (S.timestamp.encode e.clock) = (.error msg, s) := by
        unfold RawStore.reserveOrder
        rw [hcheck]
      have htyped : st.db.reserveOrder o = (.error msg, st.db) := by
        unfold Db.reserveOrder
        rw [hcheck]
      rw [hraw]
      cases e.fault with
      | some fault => exact ⟨rfl, h⟩
      | none =>
          dsimp only
          rw [htyped]
          exact ⟨rfl, h⟩
  | ok _ =>
      cases hfault : e.fault with
      | some fault => exact ⟨rfl, h⟩
      | none =>
          obtain ⟨hanswer, hafter⟩ := h.reserveOrder (ho hfault) (S.timestamp.encode e.clock)
          dsimp only
          rw [hanswer]
          exact ⟨rfl, hafter⟩

/-- The list of all orders. -/
theorem represents_orders (h : Represents S s st) :
    SameAnswer .orders (rawExec S e .orders s).1 (dbExec e .orders st).1 ∧
      Represents S (rawExec S e .orders s).2 (dbExec e .orders st).2 := by
  obtain ⟨os, hos, hperm⟩ := h.read_allOrders
  unfold rawExec dbExec rawRead typed exec statement SameAnswer
  dsimp only
  cases e.fault with
  | some msg => exact ⟨rfl, h⟩
  | none =>
      dsimp only
      rw [hos]
      exact ⟨hperm, h⟩

/-- The signer that is stored. -/
theorem represents_putSigner (h : Represents S s st) {signer : String}
    (hsigner : e.fault = none → S.string.Reads signer) :
    (rawExec S e (.putSigner signer) s).1 = (dbExec e (.putSigner signer) st).1 ∧
      Represents S (rawExec S e (.putSigner signer) s).2 (dbExec e (.putSigner signer) st).2 := by
  unfold rawExec dbExec rawWrite
  dsimp only
  cases hfault : e.fault with
  | some msg => exact ⟨rfl, h⟩
  | none => exact ⟨rfl, h.putSigner (hsigner hfault) _⟩

/-- **One call.** -/
theorem call_represents (h : Represents S s st) {call : StoreCall} (hread : WritesRead S e st call) :
    SameAnswer call (rawExec S e call s).1 (dbExec e call st).1 ∧
      Represents S (rawExec S e call s).2 (dbExec e call st).2 := by
  have hsame : ∀ call : StoreCall, (rawExec S e call s).1 = (dbExec e call st).1 ∧
      Represents S (rawExec S e call s).2 (dbExec e call st).2 →
      SameAnswer call (rawExec S e call s).1 (dbExec e call st).1 ∧
        Represents S (rawExec S e call s).2 (dbExec e call st).2 := by
    intro call hboth
    exact ⟨.of_eq hboth.1, hboth.2⟩
  cases call with
  | positions => exact hsame _ (represents_read h h.read_positions rfl)
  | savePosition basis p =>
      exact hsame _ (represents_write h fun hok => h.savePosition (hread hok) _)
  | reserveOrder seen o => exact represents_reserve h seen hread
  | updateOrder copy o => exact hsame _ (represents_write h fun hok => h.updateOrder (hread hok) _)
  | incompleteOrders => exact hsame _ (represents_read h h.read_incompleteOrders rfl)
  | orders => exact represents_orders h
  | fillTransaction t =>
      have hanswer := h.answer_fillTransaction e.txFaults t (S.timestamp.encode e.clock)
      refine hsame _ ⟨?_, h.fillTransaction hread _⟩
      unfold rawExec dbExec exec
      dsimp only
      rw [hanswer]
  | unaccountedFill fill order =>
      obtain ⟨hanswer, hafter⟩ :=
        h.unaccountedFill hread.1 hread.2 (S.timestamp.encode e.clock)
      refine hsame _ ⟨?_, hafter⟩
      unfold rawExec dbExec exec typed
      dsimp only
      rw [hanswer]
  | fillForOrder orderId => exact hsame _ (represents_read h (h.read_fillForOrder orderId) rfl)
  | setLastLiquidity mint usd =>
      refine hsame _ (represents_write h fun hok => ?_)
      obtain ⟨hobject, husd, hnow⟩ := hread hok
      exact h.setLastLiquidity mint hobject husd hnow _
  | lastLiquidity mint => exact hsame _ (represents_read h (h.read_lastLiquidity mint) rfl)
  | setSignalInvalidated id =>
      exact hsame _ (represents_write h fun hok => h.setSignalInvalidated id (hread hok) _)
  | isSignalInvalidated id => exact hsame _ (represents_read h (h.read_isSignalInvalidated id) rfl)
  | setEmergencyStop reason =>
      exact hsame _ (represents_command h fun hok => h.setEmergencyStop (hread hok) _)
  | clearEmergencyStop => exact hsame _ (represents_command h fun _ => h.clearEmergencyStop)
  | emergencyStop => exact hsame _ (represents_read h h.read_emergencyStop rfl)
  | latchKillSwitch reason =>
      exact hsame _ (represents_write h fun hok => h.latchKillSwitch (hread hok) _)
  | killSwitchReason => exact hsame _ (represents_read h h.read_killSwitch rfl)
  | putDay day =>
      exact hsame _ (represents_write h fun hok => h.putDay (hread hok).1 (hread hok).2 _)
  | getDay => exact hsame _ (represents_read h h.read_day rfl)
  | putDayStartEquity equity =>
      exact hsame _ (represents_write h fun hok => h.putDayStartEquity (hread hok) _)
  | getDayStartEquity => exact hsame _ (represents_read h h.read_dayStartEquity rfl)
  | putTradesToday trades =>
      exact hsame _ (represents_write h fun hok => h.putTradesToday (hread hok) _)
  | getTradesToday => exact hsame _ (represents_read h h.read_tradesToday rfl)
  | saveWallet address payload =>
      exact hsame _ (represents_write h fun _ => h.saveWallet address payload _)
  | putSigner signer => exact hsame _ (represents_putSigner h hread)
  | getSigner => exact hsame _ (represents_read h h.read_signer rfl)

end Calls

/-- The tables after some calls. -/
def rawRun (S : Serde) (calls : List (Env × StoreCall)) (s : RawStore) : RawStore :=
  calls.foldl (fun s c => (rawExec S c.1 c.2 s).2) s

/-- The typed store after some calls. -/
def dbRun (calls : List (Env × StoreCall)) (st : LiveStore) : LiveStore :=
  calls.foldl (fun st c => (dbExec c.1 c.2 st).2) st

/-- In a run every call writes what is read back. -/
def WritesReadBack (S : Serde) : List (Env × StoreCall) → LiveStore → Prop
  | [], _ => True
  | c :: calls, st => WritesRead S c.1 st c.2 ∧ WritesReadBack S calls (dbExec c.1 c.2 st).2

/-- After some calls the tables still mean the typed store. -/
theorem run_represents {S : Serde} {s : RawStore} {st : LiveStore} (h : Represents S s st)
    {calls : List (Env × StoreCall)} (hread : WritesReadBack S calls st) :
    Represents S (rawRun S calls s) (dbRun calls st) := by
  induction calls generalizing s st with
  | nil => exact h
  | cons c calls ih => exact ih (call_represents h hread.1).2 hread.2

/-- **The tables refine the store.** After any calls, with any failures of the statements and any
clock, whose writes are read back by the serialization, the next call answers as the typed store does
after the same calls. -/
theorem store_refines (S : Serde) (calls : List (Env × StoreCall)) (e : Env) (call : StoreCall)
    (hcalls : WritesReadBack S calls newStore) (hcall : WritesRead S e (dbRun calls newStore) call) :
    SameAnswer call (rawExec S e call (rawRun S calls .new)).1
      (dbExec e call (dbRun calls newStore)).1 := by
  have hrun := run_represents (represents_new S) hcalls
  exact (call_represents hrun hcall).1

/-! ## A run with texts -/

/-- A position without the costs of its entry. -/
def storedPosition : Position := { samplePosition with entryCostModel := none }

/-- The members of the stored position. -/
def storedPositionMembers : List String :=
  ["\"mint\":\"token\",\"position_id\":\"position-1\",\"token_mint\":\"token\",",
   "\"base_mint\":\"base\",\"entry_input_amount_atomic\":10,\"entry_output_amount_atomic\":100,",
   "\"token_decimals\":0,\"base_mint_decimals\":0,\"entry_fees_usd\":\"0\",",
   "\"entry_slippage_bps\":0,\"entry_cost_model\":null,\"quantity\":\"100\",",
   "\"remaining_quantity_atomic\":100,\"entry_cost_usd\":\"10\",\"base_entry_price_usd\":\"1\",",
   "\"state\":\"Open\",\"reconciliation_status\":\"Reconciled\",",
   "\"last_reconciled_at\":\"1970-01-01T00:00:00Z\",\"exit_signature\":null,",
   "\"exit_fees_usd\":null,\"exit_time\":null,\"entry_price_usd\":\"0.1\",",
   "\"entry_time\":\"1970-01-01T00:00:00Z\",\"entry_signature\":\"signature\",",
   "\"high_water_price_usd\":\"0.1\",\"realized_pnl_usd\":\"0\",\"unrealized_pnl_usd\":\"0\",",
   "\"fees_usd\":\"0\",\"current_value_usd\":\"10.0\",\"signal_id\":\"signal\",",
   "\"exit_reason\":null"]

/-- The text of the stored position. -/
def storedPositionJson : String := "\x7b" ++ String.join storedPositionMembers ++ "\x7d"

/-- The text of the observed liquidity. -/
def liquidityJson : String :=
  "\x7b\"liquidity_usd\":\"7\",\"observed_at\":\"1970-01-01T00:00:00+00:00\"\x7d"

/-- The members of the observed liquidity. -/
def liquidityMembers : List JsonField :=
  [⟨"liquidity_usd", .str "7"⟩, ⟨"observed_at", .str "1970-01-01T00:00:00+00:00"⟩]

/-- What `serde_json` does with the values of the run, and with one of each other type. -/
def sampleSerde : Serde where
  position := .single storedPosition storedPositionJson
  order := .unused
  fill := .unused
  string := .single "Signer1" "\"Signer1\""
  decimal := .single 7 "\"7\""
  count := .single 0 "0"
  object o := if o.rows = liquidityMembers then liquidityJson else ""
  value t := if t = liquidityJson then .ok (.obj (jsonObject liquidityMembers)) else .error "expected value"
  decimalText := .single 7 "7"
  timestamp := .single 0 "1970-01-01T00:00:00+00:00"
  date := .single 0 "1970-01-01"

/-- The environment of a statement that fails. -/
def lockedEnv : Env := { sampleEnv with fault := some "locked" }

/-- A position, the liquidity of its mint and the signer are written, and another position is not. -/
def storedRun : List (Env × StoreCall) :=
  [(sampleEnv, .savePosition (.marked storedPosition 1) storedPosition),
    (sampleEnv, .setLastLiquidity "token" 7),
    (sampleEnv, .putSigner "Signer1"),
    (lockedEnv, .savePosition (.marked storedPosition 1) { storedPosition with mint := "N" })]

/-- The observed liquidity is read back. -/
theorem sampleSerde_readsObject :
    sampleSerde.ReadsObject (RawStore.liquidityFields sampleSerde 7 0) := by
  have hfields : RawStore.liquidityFields sampleSerde 7 0 = liquidityMembers := by
    simp [RawStore.liquidityFields, sampleSerde, Codec.single, liquidityMembers]
  have hrows : (jsonObject liquidityMembers).rows = liquidityMembers := by decide +kernel
  unfold Serde.ReadsObject
  rw [hfields]
  simp only [sampleSerde, hrows, if_true]

/-- What the run writes is read back. -/
theorem storedRun_reads : WritesReadBack sampleSerde storedRun newStore := by
  refine ⟨fun _ => Codec.single_reads .., fun _ => ⟨sampleSerde_readsObject, Codec.single_reads ..,
    Codec.single_reads ..⟩, fun _ => Codec.single_reads .., fun hok => ?_, trivial⟩
  cases hok

/-- The position is there after the other writes and the failure. -/
theorem store_refines_sample :
    (rawExec sampleSerde sampleEnv .positions (rawRun sampleSerde storedRun .new)).1 =
      .ok (.positions [storedPosition]) :=
  store_refines sampleSerde storedRun sampleEnv .positions storedRun_reads trivial

end SolanaBot.Analysis
