import SolanaBot.Analysis.StoreSteps
import SolanaBot.Library.Validators
import SolanaBot.Model.LiveStartup

/-!
# One wallet for all live sessions

A live start that passes its checks leaves its signer in the store, and the next one compares its own
with it. Whatever happens to the store between the starts, two starts that follow each other have the
same signer unless the later one could not read the stored signer; so as long as it can be read, one
wallet is behind all of them (`signer_pinned`). What a start has checked, it had at that moment
(`CheckedStart`).
-/

set_option autoImplicit false

namespace SolanaBot.Analysis

open SolanaBot.Library SolanaBot.Model

/-! ## One start -/

/-- A start that has passed: what it was given and what it met. -/
structure PassedStart where
  config : Config
  env : StartEnv
  store : LiveStore
  signer : String

/-- What a start has checked. -/
structure CheckedStart (a : PassedStart) : Prop where
  signer : ∃ name ∈ a.config.execution.liveSignerEnv, a.env.readSigner name = .ok a.signer
  apiKey : ∃ name ∈ a.config.execution.jupiterApiKeyEnv, ∃ key ∈ a.env.readVar name, isBlank key = false
  balance : ∃ balance, a.env.balanceLamports a.signer = .ok balance ∧ solRequired ≤ balance
  stored : a.env.signerFault = none → ∀ stored ∈ a.store.signer, stored = a.signer
  killSwitch : a.store.db.killSwitch = none

section Start

variable {c : Config} {e : StartEnv} {s : LiveStore} {signer : String}

/-- A signer comes from the variable that the configuration names. -/
theorem liveSigner_ok (h : liveSigner c e = .ok signer) :
    ∃ name ∈ c.execution.liveSignerEnv, e.readSigner name = .ok signer := by
  unfold liveSigner at h
  split at h
  · cases h
  · next name hname =>
      split at h
      · next found hread =>
          cases h
          exact ⟨name, hname, hread⟩
      · cases h
      · cases h
      · cases h

/-- A key that passes is set and not blank. -/
theorem checkApiKey_ok (h : checkApiKey c e = .ok ()) :
    ∃ name ∈ c.execution.jupiterApiKeyEnv, ∃ key ∈ e.readVar name, isBlank key = false := by
  unfold checkApiKey at h
  split at h
  · cases h
  · next name hname =>
      split at h
      · cases h
      · next key hkey => exact ⟨name, hname, key, hkey, by simpa using rejectIf_eq_ok.mp h⟩

/-- A balance that passes covers what is required. -/
theorem checkBalance_ok (h : checkBalance e signer = .ok ()) :
    ∃ balance, e.balanceLamports signer = .ok balance ∧ solRequired ≤ balance := by
  unfold checkBalance at h
  split at h
  · cases h
  · next balance hbalance => exact ⟨balance, hbalance, UInt64.not_lt.mp (rejectIf_eq_ok.mp h)⟩

/-- A signer that passes is the stored one, if there is one. -/
theorem checkStoredSigner_ok (h : checkStoredSigner e s signer = .ok ()) (hread : e.signerFault = none) :
    ∀ stored ∈ s.signer, stored = signer := by
  intro stored hstored
  replace hstored : s.signer = some stored := hstored
  unfold checkStoredSigner at h
  rw [hread, hstored] at h
  exact not_not.mp (rejectIf_eq_ok.mp h)

/-- Without a latched switch the interlocks pass. -/
theorem checkInterlocks_ok {db : Db} (h : checkInterlocks e db = .ok ()) : db.killSwitch = none := by
  unfold checkInterlocks at h
  split at h
  · cases h
  · cases h
  · next hkill => exact hkill

/-- A start that passes has checked what there is to check. -/
theorem checkLiveStartup_ok (h : checkLiveStartup c e s = .ok signer) : CheckedStart ⟨c, e, s, signer⟩ := by
  unfold checkLiveStartup at h
  obtain ⟨found, hsigner, h⟩ := bind_eq_ok_iff.mp h
  obtain ⟨hkey, h⟩ := check_bind_eq_ok.mp h
  obtain ⟨hbalance, h⟩ := check_bind_eq_ok.mp h
  obtain ⟨hstored, h⟩ := check_bind_eq_ok.mp h
  obtain ⟨hlocks, h⟩ := check_bind_eq_ok.mp h
  obtain rfl : found = signer := Except.ok.inj h
  exact {
    signer := liveSigner_ok hsigner
    apiKey := checkApiKey_ok hkey
    balance := checkBalance_ok hbalance
    stored := checkStoredSigner_ok hstored
    killSwitch := checkInterlocks_ok hlocks }

end Start

/-! ## A history of starts -/

/-- What happens to the store of a live bot. -/
inductive LiveEvent where
  | start (config : Config) (env : StartEnv)
  /-- Whatever the sessions, the monitors and the commands do. -/
  | others (change : Db → Db)

/-- A start that passes, with the signer that it leaves in the store. -/
def passes (c : Config) (e : StartEnv) (s : LiveStore) : Option PassedStart :=
  match validateLiveStartup c e s with
  | (.ok (), left) => left.signer.map fun signer => ⟨c, e, s, signer⟩
  | (.error _, _) => none

/-- The store after an event. -/
def LiveStore.after (s : LiveStore) : LiveEvent → LiveStore
  | .start c e => (validateLiveStartup c e s).2
  | .others change => { s with db := change s.db }

/-- The starts of a history that pass, oldest first. -/
def passedStarts : LiveStore → List LiveEvent → List PassedStart
  | _, [] => []
  | s, .start c e :: events =>
      (passes c e s).toList ++ passedStarts (LiveStore.after s (.start c e)) events
  | s, .others change :: events => passedStarts (LiveStore.after s (.others change)) events

/-- A start passes and leaves its signer, or fails and leaves the store as it was. -/
theorem after_start (c : Config) (e : StartEnv) (s : LiveStore) :
    (∃ a, passes c e s = some a ∧ a.env = e ∧ a.store = s ∧ CheckedStart a ∧
        LiveStore.after s (.start c e) = { s with signer := some a.signer }) ∨
      (passes c e s = none ∧ LiveStore.after s (.start c e) = s) := by
  have hafter : LiveStore.after s (.start c e) = (validateLiveStartup c e s).2 := rfl
  rw [hafter]
  unfold passes validateLiveStartup
  cases hcheck : checkLiveStartup c e s with
  | error msg => exact .inr ⟨rfl, rfl⟩
  | ok signer =>
      cases hwrite : e.writeFault with
      | some msg => exact .inr ⟨rfl, rfl⟩
      | none => exact .inl ⟨⟨c, e, s, signer⟩, rfl, rfl, rfl, checkLiveStartup_ok hcheck, rfl⟩

/-- The signers of the starts follow each other, beginning with the stored one. -/
def Follows (before : Option String) : List PassedStart → Prop
  | [] => True
  | a :: starts =>
      (a.env.signerFault = none → ∀ stored ∈ before, a.signer = stored) ∧
        Follows (some a.signer) starts

/-- The starts that pass follow each other's signer, and each was checked. -/
theorem passedStarts_spec (s : LiveStore) (events : List LiveEvent) :
    Follows s.signer (passedStarts s events) ∧ ∀ a ∈ passedStarts s events, CheckedStart a := by
  induction events generalizing s with
  | nil => exact ⟨trivial, by simp [passedStarts]⟩
  | cons event events ih =>
      cases event with
      | others change => exact ih { s with db := change s.db }
      | start c e =>
          unfold passedStarts
          rcases after_start c e s with ⟨a, hpasses, rfl, rfl, hchecked, hafter⟩ | ⟨hpasses, hafter⟩
          · rw [hpasses, hafter]
            obtain ⟨hfollows, hall⟩ := ih { a.store with signer := some a.signer }
            refine ⟨⟨fun hread stored hstored => (hchecked.stored hread stored hstored).symm, hfollows⟩, ?_⟩
            intro b hb
            rcases List.mem_cons.mp hb with rfl | hb
            · exact hchecked
            · exact hall b hb
          · rw [hpasses, hafter]
            exact ih s

/-- If the stored signer can always be read, all starts have the same one. -/
theorem Follows.same {starts : List PassedStart} {owner : String} (h : Follows (some owner) starts)
    (hread : ∀ a ∈ starts, a.env.signerFault = none) : ∀ a ∈ starts, a.signer = owner := by
  induction starts generalizing owner with
  | nil => simp
  | cons a starts ih =>
      obtain ⟨hfirst, hrest⟩ := h
      have howner : a.signer = owner := hfirst (hread a (List.mem_cons_self ..)) owner rfl
      rw [howner] at hrest
      intro b hb
      rcases List.mem_cons.mp hb with rfl | hb
      · exact howner
      · exact ih hrest (fun b hb => hread b (List.mem_cons_of_mem _ hb)) b hb

/-- **One wallet for all live sessions.** Over every history of live starts, with any configurations and
environments, and with any changes between them of the database, beside which the signer is stored:
every start that passes had a valid signer, an API key, a tenth of a SOL and no latched kill switch; it
has the signer of the last start that passed before it, unless the stored one could not be read; and if
this never happens, one wallet, the stored one if there was one, is the signer of all starts that pass. -/
theorem signer_pinned (s : LiveStore) (events : List LiveEvent) :
    (∀ a ∈ passedStarts s events, CheckedStart a) ∧
      Follows s.signer (passedStarts s events) ∧
      ((∀ a ∈ passedStarts s events, a.env.signerFault = none) →
        ∃ owner, (∀ stored ∈ s.signer, stored = owner) ∧
          ∀ a ∈ passedStarts s events, a.signer = owner) := by
  obtain ⟨hfollows, hchecked⟩ := passedStarts_spec s events
  refine ⟨hchecked, hfollows, fun hread => ?_⟩
  cases hsigner : s.signer with
  | some owner =>
      rw [hsigner] at hfollows
      exact ⟨owner, by simp, hfollows.same hread⟩
  | none =>
      cases hstarts : passedStarts s events with
      | nil => exact ⟨"", by simp, by simp⟩
      | cons a starts =>
          rw [hstarts] at hfollows hread
          refine ⟨a.signer, by simp, fun b hb => ?_⟩
          rcases List.mem_cons.mp hb with rfl | hb
          · rfl
          · exact hfollows.2.same (fun b hb => hread b (List.mem_cons_of_mem _ hb)) b hb

/-- The sample configuration with names for the secrets. -/
def liveConfig : Config :=
  { sampleConfig with
    mode := .live
    execution := { sampleConfig.execution with
      liveSignerEnv := some "SIGNER", jupiterApiKeyEnv := some "KEY" } }

/-- A start of a wallet that holds a SOL. -/
def startOf (wallet : String) (signerFault : Option String) : LiveEvent :=
  .start liveConfig
    { readSigner := fun _ => .ok wallet, readVar := fun _ => some "key"
      balanceLamports := fun _ => .ok 1000000000, signerFault
      killSwitchFault := none, ordersFault := none, countFault := none, writeFault := none }

/-- Another wallet is refused, until the stored signer cannot be read. -/
example : (passedStarts ⟨none, Db.new⟩ [startOf "a" none, startOf "b" none,
    startOf "b" (some "locked"), startOf "a" none]).map PassedStart.signer = ["a", "b"] := by
  decide

end SolanaBot.Analysis
