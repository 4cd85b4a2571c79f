import SolanaBot.Library.Numerals
import SolanaBot.Model.HistoricalBuild

/-!
# Resuming a build

A run of the builder (historical/build.rs:121-182) is a run of a resumable log over the signals that
can be built (`buildRun_steps`): the key of a signal goes to the resume file after its line went to the
output. The comments promise that a line is appended atomically and that a re-run skips what has been
written. Between the first byte of a line and the renaming of the resume file neither holds. So interrupted
runs, taken up again, leave the output of a single run exactly if no crash falls into that window
(`resumed_build_iff`), and the output of a single run has every buildable signal once.
-/

set_option autoImplicit false

namespace SolanaBot.Analysis

open SolanaBot.Library SolanaBot.Model

/-- A signal with its line. -/
structure SignalJob where
  mint : String
  sigTs : Time
  line : DatasetLine

namespace SignalJob

/-- Its key in the resume file. -/
def key (job : SignalJob) : String := signalKey job.mint job.sigTs

/-- Its line. -/
def text (job : SignalJob) : List Char := job.line.text

end SignalJob

section Build

variable (sources : BuildSources) (options : BuildOptions)

/-- The times of the signals. -/
def buildGrid : List Time :=
  computeSignalGrid options.start options.endAt options.signalsPerMint

/-- The candles of a mint. -/
def buildWindow (mint : String) : Except String (List OhlcvCandle) :=
  sources.fetchWindow mint (options.start - minutes (24 * 60))
    (options.endAt + minutes options.futureWindowMinutes)

/-- The mints that a run reaches, with their candles: up to one whose window cannot be fetched. -/
def reachedMints : List String → List (String × List OhlcvCandle)
  | [] => []
  | mint :: mints =>
      match buildWindow sources options mint with
      | .error _ => []
      | .ok candles => (mint, candles) :: reachedMints mints

/-- The signals of a mint that can be built. -/
def mintJobs (grid : List Time) (reached : String × List OhlcvCandle) : List SignalJob :=
  grid.filterMap fun ts =>
    match sources.buildOne reached.1 ts reached.2 with
    | .ok line => some { mint := reached.1, sigTs := ts, line }
    | .error _ => none

/-- The work of a run. -/
def buildJobs : List SignalJob :=
  (reachedMints sources options options.mints).flatMap (mintJobs sources (buildGrid options))

/-- A signal that can be built: of a mint that is reached, at a time of the grid. -/
def Buildable (mint : String) (ts : Time) : Prop :=
  ∃ candles, (mint, candles) ∈ reachedMints sources options options.mints ∧
    ts ∈ buildGrid options ∧ ∃ line, sources.buildOne mint ts candles = .ok line

/-! ## A run is a run of a resumable log -/

/-- What the steps of a run come to if some jobs are left. -/
def stepsWith (st : Building) (jobs : List SignalJob) : List (LogStep String) :=
  st.steps ++ logSteps SignalJob.key SignalJob.text st.written jobs

/-- A turn over a signal does the job of the signal, if there is one. -/
theorem buildSignal_stepsWith (mint : String) (candles : List OhlcvCandle) (st : Building)
    (ts : Time) (jobs : List SignalJob) :
    stepsWith (buildSignal sources mint candles st ts) jobs =
        stepsWith st (mintJobs sources [ts] (mint, candles) ++ jobs) ∧
      (buildSignal sources mint candles st ts).failed = st.failed := by
  unfold buildSignal mintJobs stepsWith
  dsimp only
  cases hline : sources.buildOne mint ts candles with
  | error e =>
      by_cases hkey : signalKey mint ts ∈ st.written
      · rw [if_pos hkey]
        simp [hline]
      · rw [if_neg hkey]
        simp [hline]
  | ok line =>
      by_cases hkey : signalKey mint ts ∈ st.written
      · have hmem : SignalJob.key { mint, sigTs := ts, line } ∈ st.written := hkey
        rw [if_pos hkey]
        simp [hline, logSteps_cons_of_mem _ _ hmem]
      · have hnew : SignalJob.key { mint, sigTs := ts, line } ∉ st.written := hkey
        rw [if_neg hkey]
        simp only [List.filterMap_cons, hline, List.filterMap_nil, List.cons_append, List.nil_append,
          logSteps_cons_of_notMem _ _ hnew, List.append_assoc, and_true]
        rfl

/-- The turns over a grid do the jobs of a mint. -/
theorem buildSignals_stepsWith (mint : String) (candles : List OhlcvCandle) (grid : List Time)
    (st : Building) (jobs : List SignalJob) :
    stepsWith (grid.foldl (buildSignal sources mint candles) st) jobs =
        stepsWith st (mintJobs sources grid (mint, candles) ++ jobs) ∧
      (grid.foldl (buildSignal sources mint candles) st).failed = st.failed := by
  induction grid generalizing st with
  | nil => exact ⟨rfl, rfl⟩
  | cons ts grid ih =>
      obtain ⟨hsteps, hfailed⟩ := ih (buildSignal sources mint candles st ts)
      obtain ⟨hturn, hfailed'⟩ := buildSignal_stepsWith sources mint candles st ts
        (mintJobs sources grid (mint, candles) ++ jobs)
      have hjobs : mintJobs sources (ts :: grid) (mint, candles) =
          mintJobs sources [ts] (mint, candles) ++ mintJobs sources grid (mint, candles) := by
        unfold mintJobs
        rw [← List.filterMap_append, List.singleton_append]
      rw [List.foldl_cons, hsteps, hfailed, hturn, hjobs, List.append_assoc]
      exact ⟨rfl, hfailed'⟩

/-- A run that has failed does nothing more. -/
theorem buildMints_of_failed {e : String} (grid : List Time) (mints : List String) {st : Building}
    (h : st.failed = some e) :
    mints.foldl (buildMint sources options grid) st = st := by
  induction mints with
  | nil => rfl
  | cons mint mints ih =>
      have hturn : buildMint sources options grid st mint = st := by
        unfold buildMint
        rw [h]
      rw [List.foldl_cons, hturn, ih]

/-- The turns over the mints do the jobs of those that are reached. -/
theorem buildMints_steps (grid : List Time) (mints : List String) (st : Building)
    (h : st.failed = none) :
    (mints.foldl (buildMint sources options grid) st).steps =
      stepsWith st ((reachedMints sources options mints).flatMap (mintJobs sources grid)) := by
  induction mints generalizing st with
  | nil => simp [stepsWith, reachedMints, logSteps]
  | cons mint mints ih =>
      rw [List.foldl_cons]
      cases hwindow : buildWindow sources options mint with
      | error e =>
          have hturn : buildMint sources options grid st mint = { st with failed := some e } := by
            unfold buildWindow at hwindow
            unfold buildMint
            rw [h, hwindow]
          have hreached : reachedMints sources options (mint :: mints) = [] := by
            unfold reachedMints
            rw [hwindow]
          rw [hturn, hreached, buildMints_of_failed sources options grid mints (e := e) rfl]
          simp [stepsWith, logSteps]
      | ok candles =>
          have hturn : buildMint sources options grid st mint =
              grid.foldl (buildSignal sources mint candles) st := by
            unfold buildWindow at hwindow
            unfold buildMint
            rw [h, hwindow]
          have hreached : reachedMints sources options (mint :: mints) =
              (mint, candles) :: reachedMints sources options mints := by
            rw [reachedMints, hwindow]
          obtain ⟨hsteps, hfailed⟩ := buildSignals_stepsWith sources mint candles grid st
            ((reachedMints sources options mints).flatMap (mintJobs sources grid))
          rw [hturn, ih _ (hfailed.trans h), hsteps, hreached, List.flatMap_cons]

/-- **The steps of a run.** They are those of a resumable log over the work of the run. -/
theorem buildRun_steps (written : List String) :
    (buildRun sources options written).steps =
      logSteps SignalJob.key SignalJob.text written (buildJobs sources options) := by
  unfold buildRun
  rw [buildMints_steps sources options _ _ _ rfl]
  rfl

/-- A run that crashes is a crashed run of the log. -/
theorem crashedBuild_eq (d : LogDisk String) (n : ℕ) :
    crashedBuild sources options d n =
      crashed SignalJob.key SignalJob.text (buildJobs sources options) d n := by
  unfold crashedBuild crashed
  rw [buildRun_steps]

/-- A run to its end is a finished run of the log. -/
theorem completedBuild_eq (d : LogDisk String) :
    completedBuild sources options d =
      finished SignalJob.key SignalJob.text (buildJobs sources options) d := by
  unfold completedBuild finished
  rw [buildRun_steps]

/-! ## The report of a run -/

/-- A turn over a signal either accepts it or skips it. -/
theorem buildSignal_counts (mint : String) (candles : List OhlcvCandle) (st : Building) (ts : Time) :
    (buildSignal sources mint candles st ts).accepted + (buildSignal sources mint candles st ts).skipped =
      st.accepted + st.skipped + 1 := by
  unfold buildSignal
  dsimp only
  by_cases hkey : signalKey mint ts ∈ st.written
  · rw [if_pos hkey]
    simp only
    omega
  · rw [if_neg hkey]
    cases sources.buildOne mint ts candles with
    | ok line =>
        simp only
        omega
    | error e =>
        simp only
        omega

/-- The turns over a grid count every time of the grid. -/
theorem buildSignals_counts (mint : String) (candles : List OhlcvCandle) (grid : List Time)
    (st : Building) :
    (grid.foldl (buildSignal sources mint candles) st).accepted +
        (grid.foldl (buildSignal sources mint candles) st).skipped =
      st.accepted + st.skipped + grid.length := by
  induction grid generalizing st with
  | nil => rfl
  | cons ts grid ih =>
      have hturn := buildSignal_counts sources mint candles st ts
      rw [List.foldl_cons, ih, hturn, List.length_cons]
      omega

/-- The turns over the mints count every signal of every mint, unless a window cannot be fetched. -/
theorem buildMints_counts (grid : List Time) (mints : List String) (st : Building)
    (h : (mints.foldl (buildMint sources options grid) st).failed = none) :
    (mints.foldl (buildMint sources options grid) st).accepted +
        (mints.foldl (buildMint sources options grid) st).skipped =
      st.accepted + st.skipped + mints.length * grid.length := by
  induction mints generalizing st with
  | nil => simp
  | cons mint mints ih =>
      rw [List.foldl_cons] at h ⊢
      -- a run that has failed stays so, and its last state has not
      have hgoing : (buildMint sources options grid st mint).failed = none := by
        cases hfailed : (buildMint sources options grid st mint).failed with
        | none => rfl
        | some e =>
            rw [buildMints_of_failed sources options grid mints hfailed, hfailed] at h
            cases h
      have hturn : (buildMint sources options grid st mint).accepted +
          (buildMint sources options grid st mint).skipped =
            st.accepted + st.skipped + grid.length := by
        unfold buildMint at hgoing ⊢
        cases hst : st.failed with
        | some e =>
            simp only [hst] at hgoing
            cases hgoing
        | none =>
            simp only [hst] at hgoing ⊢
            split
            · rename_i e hwindow
              simp only [hwindow] at hgoing
              cases hgoing
            · exact buildSignals_counts sources mint _ grid st
      rw [ih _ h, hturn, List.length_cons, Nat.succ_mul]
      omega

/-- **The report accounts for every signal.** Whatever has been written before, a run that reports has
accepted or skipped each of the signals it counts in total. -/
theorem buildReport_accounts (written : List String) (report : BuildReport)
    (h : buildReport options (buildRun sources options written) = .ok report) :
    report.acceptedSignals + report.skippedSignals = report.totalSignals := by
  unfold buildReport at h
  split at h
  · cases h
  · rename_i hfailed
    cases h
    have hcounts := buildMints_counts sources options _ _ _ hfailed
    simp only [Nat.zero_add] at hcounts
    exact hcounts

end Build

/-! ## Keys -/

/-- The text of an integer has digits and a sign only. -/
theorem notMem_toString {c : Char} (hdigit : c.isDigit = false) (hminus : c ≠ '-') (n : ℤ) :
    c ∉ (toString n).toList := by
  have hnat : ∀ m : ℕ, c ∉ Nat.toDigits 10 m := by
    intro m hmem
    rw [Nat.isDigit_of_mem_toDigits (by decide) (by decide) hmem] at hdigit
    cases hdigit
  rw [Int.toString_eq_repr]
  cases n with
  | ofNat m =>
      change c ∉ m.repr.toList
      rw [Nat.toList_repr]
      exact hnat m
  | negSucc m =>
      change c ∉ ("-" ++ (m + 1).repr).toList
      rw [String.toList_append, Nat.toList_repr, List.mem_append, not_or]
      exact ⟨by simpa using hminus, hnat _⟩

/-- Integers with the same text are the same. -/
theorem toString_int_injective {m n : ℤ} (h : toString m = toString n) : m = n := by
  have hread : ∀ i j : ℕ, Nat.toDigits 10 i = Nat.toDigits 10 j → i = j := by
    intro i j hij
    have heq := readNat_toDigits i
    rw [hij, readNat_toDigits j] at heq
    exact (Option.some.inj heq).symm
  have hsign : ∀ i : ℕ, '-' ∉ Nat.toDigits 10 i := by
    intro i hmem
    have hdigit := Nat.isDigit_of_mem_toDigits (by decide) (by decide) hmem
    cases hdigit
  rw [Int.toString_eq_repr, Int.toString_eq_repr] at h
  have hchars := congrArg String.toList h
  cases m with
  | ofNat i =>
      cases n with
      | ofNat j =>
          change i.repr.toList = j.repr.toList at hchars
          rw [Nat.toList_repr, Nat.toList_repr] at hchars
          rw [hread i j hchars]
      | negSucc j =>
          change i.repr.toList = ("-" ++ (j + 1).repr).toList at hchars
          rw [Nat.toList_repr, String.toList_append] at hchars
          exact absurd (hchars ▸ by simp) (hsign i)
  | negSucc i =>
      cases n with
      | ofNat j =>
          change ("-" ++ (i + 1).repr).toList = j.repr.toList at hchars
          rw [Nat.toList_repr, String.toList_append] at hchars
          exact absurd (hchars.symm ▸ by simp) (hsign j)
      | negSucc j =>
          change ("-" ++ (i + 1).repr).toList = ("-" ++ (j + 1).repr).toList at hchars
          rw [String.toList_append, String.toList_append, Nat.toList_repr, Nat.toList_repr,
            List.append_cancel_left_eq] at hchars
          have hsucc := hread _ _ hchars
          rw [Nat.succ_inj.mp hsucc]

/-- Two texts that are cut at their last separator are equal piece by piece. -/
theorem append_separator_inj {c : Char} {a b x y : List Char} (h : a ++ c :: x = b ++ c :: y)
    (hx : c ∉ x) (hy : c ∉ y) : a = b ∧ x = y := by
  rcases List.append_eq_append_iff.mp h with ⟨t, hb, ht⟩ | ⟨t, ha, ht⟩
  · cases t with
    | nil => simpa [eq_comm] using And.intro hb ht
    | cons d t =>
        rw [List.cons_append, List.cons.injEq] at ht
        rw [ht.2] at hx
        exact absurd (List.mem_append_right _ List.mem_cons_self) hx
  · cases t with
    | nil => simpa [eq_comm] using And.intro ha ht
    | cons d t =>
        rw [List.cons_append, List.cons.injEq] at ht
        rw [ht.2] at hy
        exact absurd (List.mem_append_right _ List.mem_cons_self) hy

/-- A key tells the mint and the second. -/
theorem signalKey_inj {mint mint' : String} {ts ts' : Time}
    (h : signalKey mint ts = signalKey mint' ts') : mint = mint' ∧ ts / 1000 = ts' / 1000 := by
  have hpipe : ∀ n : ℤ, '|' ∉ (toString n).toList := fun n =>
    notMem_toString (by decide) (by decide) n
  unfold signalKey at h
  have hchars := congrArg String.toList h
  simp only [String.toList_append] at hchars
  rw [show "|".toList = ['|'] from rfl, List.append_assoc, List.append_assoc, List.singleton_append,
    List.singleton_append] at hchars
  obtain ⟨hmint, hts⟩ := append_separator_inj hchars (hpipe _) (hpipe _)
  exact ⟨String.toList_inj.mp hmint, toString_int_injective (String.toList_inj.mp hts)⟩

/-- The times of a grid differ by whole seconds. -/
theorem mem_computeSignalGrid {start endAt ts : Time} {n : ℕ}
    (h : ts ∈ computeSignalGrid start endAt n) : ∃ k : ℤ, ts = start + 1000 * k := by
  unfold computeSignalGrid at h
  split at h
  · rw [List.mem_singleton] at h
    exact ⟨0, by rw [h, mul_zero, add_zero]⟩
  · obtain ⟨i, -, rfl⟩ := List.mem_map.mp h
    exact ⟨i * ((numSeconds (endAt - start)).tdiv (max ((n : ℤ) - 1) 1)), by
      rw [seconds, mul_comm (1000 : ℤ)]⟩

/-- Times of one grid with the same second are the same. -/
theorem grid_seconds_inj {options : BuildOptions} {a b : Time} (ha : a ∈ buildGrid options)
    (hb : b ∈ buildGrid options) (h : a / 1000 = b / 1000) : a = b := by
  obtain ⟨i, rfl⟩ := mem_computeSignalGrid ha
  obtain ⟨j, rfl⟩ := mem_computeSignalGrid hb
  rw [Int.add_mul_ediv_left _ _ (by decide), Int.add_mul_ediv_left _ _ (by decide)] at h
  have hij : i = j := add_left_cancel h
  rw [hij]

/-! ## The output of a run -/

/-- A text without a line break, and what follows behind one. -/
theorem linesOf_line {l : List Char} (h : '\n' ∉ l) (rest : List Char) :
    linesOf (l ++ '\n' :: rest) = l :: linesOf rest := by
  induction l with
  | nil => simp [linesOf]
  | cons c l ih =>
      rw [List.mem_cons, not_or] at h
      rw [List.cons_append, linesOf, if_neg (Ne.symm h.1), ih h.2]

/-- The lines of a log are the lines of its items. -/
theorem linesOf_logText (jobs : List SignalJob) :
    linesOf (logText SignalJob.text jobs) = jobs.map SignalJob.text := by
  induction jobs with
  | nil => rfl
  | cons job jobs ih =>
      have htext : logText SignalJob.text (job :: jobs) =
          job.text ++ '\n' :: logText SignalJob.text jobs := by
        simp [logText]
      have hone : '\n' ∉ job.text := job.line.oneLine
      rw [htext, linesOf_line hone, ih, List.map_cons]

section Output

variable (sources : BuildSources) (options : BuildOptions)

/-- The jobs are of buildable signals. -/
theorem mem_buildJobs {job : SignalJob} (h : job ∈ buildJobs sources options) :
    job.sigTs ∈ buildGrid options ∧ Buildable sources options job.mint job.sigTs := by
  obtain ⟨⟨mint, candles⟩, hreached, hjob⟩ := List.mem_flatMap.mp h
  obtain ⟨ts, hts, hline⟩ := List.mem_filterMap.mp hjob
  dsimp only at hline
  cases hbuild : sources.buildOne mint ts candles with
  | error e =>
      rw [hbuild] at hline
      cases hline
  | ok line =>
      rw [hbuild] at hline
      cases hline
      exact ⟨hts, candles, hreached, hts, line, hbuild⟩

/-- Every buildable signal has a job. -/
theorem exists_mem_buildJobs {mint : String} {ts : Time} (h : Buildable sources options mint ts) :
    ∃ job ∈ buildJobs sources options, job.mint = mint ∧ job.sigTs = ts := by
  obtain ⟨candles, hreached, hts, line, hbuild⟩ := h
  refine ⟨{ mint, sigTs := ts, line }, ?_, rfl, rfl⟩
  apply List.mem_flatMap.mpr
  refine ⟨(mint, candles), hreached, List.mem_filterMap.mpr ⟨ts, hts, ?_⟩⟩
  dsimp only
  rw [hbuild]

/-- The lines of a text are those of the buildable signals, each once. -/
def HoldsEachOnce (output : List Char) : Prop :=
  ∃ jobs : List SignalJob, linesOf output = jobs.map SignalJob.text ∧
    (jobs.map fun job => (job.mint, job.sigTs)).Nodup ∧
    (∀ job ∈ jobs, job ∈ buildJobs sources options) ∧
    ∀ mint ts, Buildable sources options mint ts → ∃ job ∈ jobs, job.mint = mint ∧ job.sigTs = ts

/-- The output of a run on an empty disk. -/
theorem completedBuild_output :
    (completedBuild sources options emptyDisk).log =
      logText SignalJob.text (firstsBy SignalJob.key [] (buildJobs sources options)) := by
  rw [completedBuild_eq, finished_log]
  rfl

/-- **A run that is not interrupted writes every buildable signal once.** -/
theorem completedBuild_holdsEachOnce :
    HoldsEachOnce sources options (completedBuild sources options emptyDisk).log := by
  rw [completedBuild_output]
  refine ⟨_, linesOf_logText _, ?_, ?_, ?_⟩
  · have hkeys : ((firstsBy SignalJob.key [] (buildJobs sources options)).map SignalJob.key).Nodup :=
      nodup_map_firstsBy [] (buildJobs sources options)
    apply List.Nodup.of_map (fun p : String × Time => signalKey p.1 p.2)
    rw [List.map_map]
    exact hkeys
  · intro job hjob
    exact (firstsBy_sublist [] _).subset hjob
  · intro mint ts h
    obtain ⟨job, hjob, rfl, rfl⟩ := exists_mem_buildJobs sources options h
    have hkey : job.key ∈ (firstsBy SignalJob.key [] (buildJobs sources options)).map
        SignalJob.key := mem_map_firstsBy.mpr ⟨List.mem_map_of_mem hjob, List.not_mem_nil⟩
    obtain ⟨first, hfirst, heq⟩ := List.mem_map.mp hkey
    obtain ⟨hmint, hsecond⟩ := signalKey_inj heq
    have hin := (firstsBy_sublist [] _).subset hfirst
    refine ⟨first, hfirst, hmint, ?_⟩
    exact grid_seconds_inj (mem_buildJobs sources options hin).1
      (mem_buildJobs sources options hjob).1 hsecond

/-! ## Interrupted runs -/

/-- The disk after interrupted runs and one that is not interrupted. -/
def resumedBuild (crashes : List ℕ) : LogDisk String :=
  completedBuild sources options (crashes.foldl (crashedBuild sources options) emptyDisk)

/-- No crash falls between the first character of a line and the renaming of the resume file that
holds its key. -/
def CrashesSettled (d : LogDisk String) : List ℕ → Prop
  | [] => True
  | n :: crashes => LogStep.unmarked ((buildRun sources options d.marked).steps.take n) = [] ∧
      CrashesSettled (crashedBuild sources options d n) crashes

/-- The crashes are settled exactly as those of the log. -/
theorem crashesSettled_iff (d : LogDisk String) (crashes : List ℕ) :
    CrashesSettled sources options d crashes ↔
      Settled SignalJob.key SignalJob.text (buildJobs sources options) d crashes := by
  induction crashes generalizing d with
  | nil => exact Iff.rfl
  | cons n crashes ih =>
      unfold CrashesSettled Settled
      rw [ih, crashedBuild_eq, buildRun_steps]

/-- The disk after interrupted runs is that of the log. -/
theorem resumedBuild_eq (crashes : List ℕ) :
    resumedBuild sources options crashes =
      resumed SignalJob.key SignalJob.text (buildJobs sources options) emptyDisk crashes := by
  unfold resumedBuild resumed
  rw [completedBuild_eq]
  congr 2
  funext d n
  exact crashedBuild_eq sources options d n

/-- **Resuming gives the output of a single run exactly if every crash is settled.** For all sequences
of interrupted runs and a final one that is not interrupted: the output is, character by character, that
of a single run, which holds every buildable signal once as a complete line, if and only if no crash
falls between an append and its mark. -/
theorem resumed_build_iff (crashes : List ℕ) :
    ((resumedBuild sources options crashes).log = (completedBuild sources options emptyDisk).log ∧
        HoldsEachOnce sources options (resumedBuild sources options crashes).log) ↔
      CrashesSettled sources options emptyDisk crashes := by
  rw [crashesSettled_iff, ← resumed_log_iff, ← resumedBuild_eq, ← completedBuild_eq]
  constructor
  · intro h
    exact h.1
  · intro h
    refine ⟨h, ?_⟩
    rw [h]
    exact completedBuild_holdsEachOnce sources options

end Output

/-! ## A crash between the two writes -/

/-- One mint with one signal, whose line is a single character. -/
def shortSources : BuildSources :=
  { fetchWindow := fun _ _ _ => .ok []
    buildOne := fun _ _ _ => .ok ⟨['x'], by decide⟩ }

/-- One mint and one time. -/
def shortOptions : BuildOptions :=
  { mints := ["mint"], start := 0, endAt := 0, signalsPerMint := 1, futureWindowMinutes := 0 }

/-- A crash after the line and before its mark writes the signal twice. A crash inside the line glues
what it left to the line of the next run, so that no line is that of the signal. -/
theorem interrupted_build_damaged :
    linesOf (completedBuild shortSources shortOptions emptyDisk).log = [['x']] ∧
      linesOf (resumedBuild shortSources shortOptions [2]).log = [['x'], ['x']] ∧
      linesOf (resumedBuild shortSources shortOptions [1]).log = [['x', 'x']] := by
  refine ⟨?_, ?_, ?_⟩
  · rw [completedBuild_output]
    decide +kernel
  · rw [resumedBuild_eq]
    decide +kernel
  · rw [resumedBuild_eq]
    decide +kernel

end SolanaBot.Analysis
