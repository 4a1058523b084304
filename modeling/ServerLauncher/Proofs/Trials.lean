import ServerLauncher.Probe

/-!
What a trial says of a file. A start that finds the file busy is followed by another one, at most
five times and after longer and longer pauses, so the first start that does not find it busy
decides, or the sixth. The look-up, the deciding start and the wait for the program give one verdict
in every case, and each verdict comes from one kind of case only.
-/

namespace ServerLauncher.Probe

/-- The start with number `k` decides: all before it found the file busy, and it did not, or there
are no retries left. -/
structure Decides (start : Nat → Option FileError) (k : Nat) : Prop where
  le : k ≤ retries
  busy : ∀ i < k, isBusy (start i) = true
  settled : k < retries → isBusy (start k) = false

theorem Decides.unique {start : Nat → Option FileError} {j k : Nat} (hj : Decides start j)
    (hk : Decides start k) : j = k := by
  -- the earlier one of two would have been followed by another start
  have hle : ∀ {m n : Nat}, Decides start m → Decides start n → n ≤ m := by
    intro m n hm hn
    apply Nat.le_of_not_lt
    intro hlt
    have hbusy := hn.busy m hlt
    rw [hm.settled (Nat.lt_of_lt_of_le hlt hn.le)] at hbusy
    cases hbusy
  exact Nat.le_antisymm (hle hk hj) (hle hj hk)

theorem decides_of_started {start : Nat → Option FileError} {k : Nat} (hle : k ≤ retries)
    (hbusy : ∀ i < k, isBusy (start i) = true) (hstart : start k = none) : Decides start k :=
  ⟨hle, hbusy, fun _ => by rw [hstart]; rfl⟩

/-- The starts from number `k` on go on while the file is busy and retries are left. -/
theorem launch_eq (start : Nat → Option FileError) (left k : Nat) :
    ∃ n ≤ left, (∀ i < n, isBusy (start (k + i)) = true) ∧
      (n < left → isBusy (start (k + n)) = false) ∧
      launch start left k (startTime k) =
        ⟨(List.range' k (n + 1)).map startTime, start (k + n)⟩ := by
  induction left generalizing k with
  | zero => exact ⟨0, Nat.le_refl _, by simp, by simp, rfl⟩
  | succ left ih =>
    rw [launch]
    by_cases hbusy : isBusy (start k) = true
    · obtain ⟨n, hle, hbefore, hafter, hlater⟩ := ih (k + 1)
      have htime : startTime k + pause (k + 1) = startTime (k + 1) := rfl
      have hnext : ∀ i, k + 1 + i = k + (i + 1) := by omega
      rw [if_pos hbusy, htime, hlater]
      refine ⟨n + 1, Nat.succ_le_succ hle, ?_, ?_, ?_⟩
      · intro i hi
        cases i with
        | zero => exact hbusy
        | succ i => exact hnext i ▸ hbefore i (Nat.lt_of_succ_lt_succ hi)
      · intro hlt
        exact hnext n ▸ hafter (Nat.lt_of_succ_lt_succ hlt)
      · rw [hnext]
        rfl
    · rw [if_neg hbusy]
      exact ⟨0, Nat.zero_le _, by simp, fun _ => Bool.eq_false_iff.2 hbusy, rfl⟩

theorem launch_of_decides {start : Nat → Option FileError} {k : Nat} (hk : Decides start k) :
    launch start retries 0 0 = ⟨(List.range (k + 1)).map startTime, start k⟩ := by
  obtain ⟨n, hle, hbusy, hsettled, hlaunch⟩ := launch_eq start retries 0
  simp only [Nat.zero_add] at hbusy hsettled hlaunch
  rw [hk.unique ⟨hle, hbusy, hsettled⟩, List.range_eq_range']
  exact hlaunch

theorem exists_decides (start : Nat → Option FileError) : ∃ k, Decides start k := by
  obtain ⟨n, hle, hbusy, hsettled, -⟩ := launch_eq start retries 0
  simp only [Nat.zero_add] at hbusy hsettled
  exact ⟨n, hle, hbusy, hsettled⟩

namespace Answers

variable {a : Answers} {limit : Duration} {k : Nat}

/-- The look-up has found a regular file that somebody may run. -/
def IsRunnable (a : Answers) : Prop :=
  ∃ mode content, a.lookup = .ok (.file mode content) ∧ mode &&& 0o111 ≠ 0

theorem hasRunBit_iff {mode : Nat} : hasRunBit mode = true ↔ mode &&& 0o111 ≠ 0 := by
  simp [hasRunBit]

theorem hasRunBit_eq_false_iff {mode : Nat} : hasRunBit mode = false ↔ mode &&& 0o111 = 0 := by
  simp [hasRunBit]

/-- The file was started, at the first attempt or after busy ones. -/
def IsStarted (a : Answers) : Prop :=
  ∃ k < 6, a.start k = none ∧ ∀ i < k, isBusy (a.start i) = true

theorem isStarted_iff : a.IsStarted ↔ ∃ k, Decides a.start k ∧ a.start k = none := by
  constructor
  · rintro ⟨k, hk, hnone, hbusy⟩
    exact ⟨k, decides_of_started (Nat.le_of_lt_succ hk) hbusy hnone, hnone⟩
  · rintro ⟨k, hk, hnone⟩
    exact ⟨k, Nat.lt_succ_of_le hk.le, hnone, hk.busy⟩

theorem startTimes_of_runnable (h : a.IsRunnable) (hk : Decides a.start k) :
    a.startTimes = (List.range (k + 1)).map startTime := by
  obtain ⟨mode, content, hlookup, hbit⟩ := h
  simp only [startTimes, launch?, hlookup, hasRunBit_iff.2 hbit, launch_of_decides hk, if_true]

theorem verdict_of_runnable (h : a.IsRunnable) (hk : Decides a.start k) :
    a.verdict limit = startVerdict limit a.wait (a.start k) := by
  obtain ⟨mode, content, hlookup, hbit⟩ := h
  simp only [verdict, hlookup, hasRunBit_iff.2 hbit, launch_of_decides hk, if_true]

/-- Every way of the look-up to end, with what is said of the file. -/
theorem verdict_cases (limit : Duration) (a : Answers) :
    (∃ e, a.lookup = .error e ∧
        a.verdict limit = if e.osError? = some .noEntry then .missing else .spawnFailed e.text) ∨
      (∃ entry, a.lookup = .ok entry ∧ entry.isFile = false ∧ a.verdict limit = .notAFile) ∨
      (∃ mode content, a.lookup = .ok (.file mode content) ∧ mode &&& 0o111 = 0 ∧
        a.verdict limit = .notExecutable) ∨
      (a.IsRunnable ∧ ∃ k, Decides a.start k ∧
        a.verdict limit = startVerdict limit a.wait (a.start k)) := by
  cases hlookup : a.lookup with
  | error e => exact Or.inl ⟨e, rfl, by rw [verdict, hlookup]⟩
  | ok entry =>
    right
    cases entry with
    | dir => exact Or.inl ⟨.dir, rfl, rfl, by rw [verdict, hlookup]⟩
    | link target => exact Or.inl ⟨.link target, rfl, rfl, by rw [verdict, hlookup]⟩
    | file mode content =>
      right
      by_cases hbit : mode &&& 0o111 = 0
      · refine Or.inl ⟨mode, content, rfl, hbit, ?_⟩
        simp [verdict, hlookup, hasRunBit_eq_false_iff.2 hbit]
      · have hrun : a.IsRunnable := ⟨mode, content, hlookup, hbit⟩
        obtain ⟨k, hk⟩ := exists_decides a.start
        exact Or.inr ⟨hrun, k, hk, verdict_of_runnable hrun hk⟩

/-- The wait for the program answers in time. -/
def EndsBy (a : Answers) (limit : Duration) (exit : Exit) : Prop :=
  ∃ n ≤ limit.millis, a.wait = some (n, exit)

/-- The wait for the program does not answer in time. -/
def Outlasts (a : Answers) (limit : Duration) : Prop :=
  ∀ n exit, a.wait = some (n, exit) → limit.millis < n

theorem waitVerdict_cases (limit : Duration) (a : Answers) :
    (a.Outlasts limit ∧ (∀ exit, ¬a.EndsBy limit exit) ∧
        waitVerdict limit a.wait = .timedOut limit) ∨
      ∃ exit, ¬a.Outlasts limit ∧ (∀ exit', a.EndsBy limit exit' ↔ exit' = exit) ∧
        waitVerdict limit a.wait = exitVerdict exit := by
  unfold EndsBy Outlasts
  cases a.wait with
  | none => exact Or.inl ⟨by simp, by simp, rfl⟩
  | some answer =>
    obtain ⟨n, exit⟩ := answer
    by_cases hn : n ≤ limit.millis
    · refine Or.inr ⟨exit, ?_, ?_, if_pos hn⟩
      · exact fun hlate => Nat.not_lt.2 hn (hlate n exit rfl)
      · intro exit'
        constructor
        · rintro ⟨m, -, heq⟩
          exact (Prod.mk.inj (Option.some.inj heq)).2.symm
        · rintro rfl
          exact ⟨n, hn, rfl⟩
    · refine Or.inl ⟨?_, ?_, if_neg hn⟩
      · intro m exit' heq
        rw [← (Prod.mk.inj (Option.some.inj heq)).1]
        exact Nat.lt_of_not_le hn
      · rintro exit' ⟨m, hm, heq⟩
        rw [← (Prod.mk.inj (Option.some.inj heq)).1] at hm
        exact hn hm

variable {answer : Option FileError}

theorem startVerdict_eq_valid_iff :
    startVerdict limit a.wait answer = .valid ↔ answer = none ∧ a.EndsBy limit (.code 0) := by
  cases answer with
  | some e =>
    unfold startVerdict
    dsimp only
    split <;> simp
  | none =>
    rw [startVerdict]
    rcases a.waitVerdict_cases limit with ⟨-, hnone, hv⟩ | ⟨exit, -, hends, hv⟩
    · simp [hv, hnone]
    · rw [hv, hends]
      unfold exitVerdict
      split <;> simp_all [eq_comm]

theorem startVerdict_eq_exited_iff {c : Int} :
    startVerdict limit a.wait answer = .exitedWith (some c) ↔
      answer = none ∧ ∃ n : Nat, n ≠ 0 ∧ c = n ∧ a.EndsBy limit (.code n) := by
  cases answer with
  | some e =>
    unfold startVerdict
    dsimp only
    split <;> simp
  | none =>
    rw [startVerdict]
    rcases a.waitVerdict_cases limit with ⟨-, hnone, hv⟩ | ⟨exit, -, hends, hv⟩
    · simp [hv, hnone]
    · rw [hv]
      simp only [hends]
      unfold exitVerdict
      split
      · simp_all
      · rename_i n hn
        have hne : n ≠ 0 := fun h => hn h
        constructor
        · intro heq
          exact ⟨trivial, n, hne, (Option.some.inj (Verdict.exitedWith.inj heq)).symm, rfl⟩
        · rintro ⟨-, m, -, rfl, heq⟩
          rw [Exit.code.inj heq]
      · simp
      · simp

theorem startVerdict_eq_killed_iff :
    startVerdict limit a.wait answer = .exitedWith none ↔
      answer = none ∧ ∃ n, a.EndsBy limit (.signal n) := by
  cases answer with
  | some e =>
    unfold startVerdict
    dsimp only
    split <;> simp
  | none =>
    rw [startVerdict]
    rcases a.waitVerdict_cases limit with ⟨-, hnone, hv⟩ | ⟨exit, -, hends, hv⟩
    · simp [hv, hnone]
    · rw [hv]
      simp only [hends]
      unfold exitVerdict
      split <;> simp

theorem startVerdict_eq_timedOut_iff {d : Duration} :
    startVerdict limit a.wait answer = .timedOut d ↔
      answer = none ∧ d = limit ∧ a.Outlasts limit := by
  cases answer with
  | some e =>
    unfold startVerdict
    dsimp only
    split <;> simp
  | none =>
    rw [startVerdict]
    rcases a.waitVerdict_cases limit with ⟨hlate, -, hv⟩ | ⟨exit, hlate, -, hv⟩
    · simp [hv, hlate, eq_comm]
    · rw [hv]
      unfold exitVerdict
      split <;> simp [hlate]

theorem exitVerdict_ne (exit : Exit) :
    exitVerdict exit ≠ .missing ∧ exitVerdict exit ≠ .notAFile ∧
      exitVerdict exit ≠ .notExecutable := by
  unfold exitVerdict
  split <;> simp

theorem waitVerdict_ne (limit : Duration) (a : Answers) :
    waitVerdict limit a.wait ≠ .missing ∧ waitVerdict limit a.wait ≠ .notAFile ∧
      waitVerdict limit a.wait ≠ .notExecutable := by
  rcases a.waitVerdict_cases limit with ⟨-, -, hv⟩ | ⟨exit, -, -, hv⟩
  · simp [hv]
  · rw [hv]
    exact exitVerdict_ne exit

theorem startVerdict_eq_notExecutable_iff :
    startVerdict limit a.wait answer = .notExecutable ↔
      ∃ e, answer = some e ∧ isDenied e = true := by
  cases answer with
  | some e =>
    unfold startVerdict
    dsimp only
    split <;> simp_all
  | none => simp [startVerdict, (a.waitVerdict_ne limit).2.2]

theorem startVerdict_ne (limit : Duration) (a : Answers) (answer : Option FileError) :
    startVerdict limit a.wait answer ≠ .missing ∧
      startVerdict limit a.wait answer ≠ .notAFile := by
  cases answer with
  | some e =>
    unfold startVerdict
    dsimp only
    split <;> simp
  | none => exact ⟨(a.waitVerdict_ne limit).1, (a.waitVerdict_ne limit).2.1⟩

theorem not_isRunnable_of_error {e : FileError} (h : a.lookup = .error e) : ¬ a.IsRunnable := by
  simp [IsRunnable, h]

theorem not_isRunnable_of_other {entry : Entry} (h : a.lookup = .ok entry)
    (hfile : entry.isFile = false) : ¬ a.IsRunnable := by
  rintro ⟨mode, content, hlookup, -⟩
  rw [h] at hlookup
  rw [Except.ok.inj hlookup] at hfile
  cases hfile

theorem not_isRunnable_of_plain {mode : Nat} {content : Bytes}
    (h : a.lookup = .ok (.file mode content)) (hbit : mode &&& 0o111 = 0) : ¬ a.IsRunnable := by
  rintro ⟨mode', content', hlookup, hne⟩
  rw [h] at hlookup
  cases hlookup
  exact hne hbit

/-- What is said of a program that ran is said of no file that was not started. -/
theorem verdict_eq_iff_of_ran {v : Verdict} (hmissing : v ≠ .missing) (hother : v ≠ .notAFile)
    (hplain : v ≠ .notExecutable) (hfailed : ∀ reason, v ≠ .spawnFailed reason) :
    a.verdict limit = v ↔
      a.IsRunnable ∧ ∃ k, Decides a.start k ∧ startVerdict limit a.wait (a.start k) = v := by
  rcases a.verdict_cases limit with ⟨e, h, hv⟩ | ⟨entry, h, hfile, hv⟩ |
    ⟨mode, content, h, hbit, hv⟩ | ⟨hrun, k, hk, hv⟩
  · have hne : a.verdict limit ≠ v := by
      rw [hv]
      split
      · exact hmissing.symm
      · exact (hfailed _).symm
    simp [hne, not_isRunnable_of_error h]
  · simp [hv, hother.symm, not_isRunnable_of_other h hfile]
  · simp [hv, hplain.symm, not_isRunnable_of_plain h hbit]
  · rw [hv]
    constructor
    · exact fun heq => ⟨hrun, k, hk, heq⟩
    · rintro ⟨-, j, hj, heq⟩
      rwa [hk.unique hj]

theorem verdict_eq_valid_iff :
    a.verdict limit = .valid ↔ a.IsRunnable ∧ a.IsStarted ∧ a.EndsBy limit (.code 0) := by
  rw [verdict_eq_iff_of_ran (by simp) (by simp) (by simp) (by simp), isStarted_iff]
  simp only [startVerdict_eq_valid_iff, ← and_assoc, exists_and_right]

theorem verdict_eq_exited_iff {c : Int} :
    a.verdict limit = .exitedWith (some c) ↔
      a.IsRunnable ∧ a.IsStarted ∧ ∃ n : Nat, n ≠ 0 ∧ c = n ∧ a.EndsBy limit (.code n) := by
  rw [verdict_eq_iff_of_ran (by simp) (by simp) (by simp) (by simp), isStarted_iff]
  simp only [startVerdict_eq_exited_iff, ← and_assoc, exists_and_right]

theorem verdict_eq_killed_iff :
    a.verdict limit = .exitedWith none ↔
      a.IsRunnable ∧ a.IsStarted ∧ ∃ n, a.EndsBy limit (.signal n) := by
  rw [verdict_eq_iff_of_ran (by simp) (by simp) (by simp) (by simp), isStarted_iff]
  simp only [startVerdict_eq_killed_iff, ← and_assoc, exists_and_right]

theorem verdict_eq_timedOut_iff {d : Duration} :
    a.verdict limit = .timedOut d ↔
      a.IsRunnable ∧ a.IsStarted ∧ d = limit ∧ a.Outlasts limit := by
  rw [verdict_eq_iff_of_ran (by simp) (by simp) (by simp) (by simp), isStarted_iff]
  simp only [startVerdict_eq_timedOut_iff, ← and_assoc, exists_and_right]

theorem verdict_eq_missing_iff :
    a.verdict limit = .missing ↔ ∃ e, a.lookup = .error e ∧ e.osError? = some .noEntry := by
  rcases a.verdict_cases limit with ⟨e, h, hv⟩ | ⟨entry, h, hfile, hv⟩ |
    ⟨mode, content, h, hbit, hv⟩ | ⟨⟨mode, content, h, -⟩, k, -, hv⟩
  · simp [hv, h]
  · simp [hv, h]
  · simp [hv, h]
  · simp [hv, h, (startVerdict_ne limit a (a.start k)).1]

theorem verdict_eq_notAFile_iff :
    a.verdict limit = .notAFile ↔ ∃ entry, a.lookup = .ok entry ∧ entry.isFile = false := by
  rcases a.verdict_cases limit with ⟨e, h, hv⟩ | ⟨entry, h, hfile, hv⟩ |
    ⟨mode, content, h, hbit, hv⟩ | ⟨⟨mode, content, h, -⟩, k, -, hv⟩
  · simp only [hv, h]
    split <;> simp
  · simp [hv, h, hfile]
  · simp [hv, h, Entry.isFile]
  · simp [hv, h, Entry.isFile, (startVerdict_ne limit a (a.start k)).2]

theorem verdict_eq_notExecutable_iff :
    a.verdict limit = .notExecutable ↔
      (∃ mode content, a.lookup = .ok (.file mode content) ∧ mode &&& 0o111 = 0) ∨
        a.IsRunnable ∧
          ∃ k e, Decides a.start k ∧ a.start k = some e ∧ isDenied e = true := by
  rcases a.verdict_cases limit with ⟨e, h, hv⟩ | ⟨entry, h, hfile, hv⟩ |
    ⟨mode, content, h, hbit, hv⟩ | ⟨hrun, k, hk, hv⟩
  · simp only [hv, h, not_isRunnable_of_error h]
    split <;> simp
  · have hne : ∀ mode content, entry ≠ .file mode content := by
      rintro mode content rfl
      cases hfile
    simp [hv, h, hne, not_isRunnable_of_other h hfile]
  · simp [hv, h, hbit]
  · rw [hv, startVerdict_eq_notExecutable_iff]
    constructor
    · rintro ⟨e, hstart, hdenied⟩
      exact Or.inr ⟨hrun, k, e, hk, hstart, hdenied⟩
    · rintro (⟨mode, content, h, hbit⟩ | ⟨-, j, e, hj, hstart, hdenied⟩)
      · exact absurd hrun (not_isRunnable_of_plain h hbit)
      · rw [hk.unique hj]
        exact ⟨e, hstart, hdenied⟩

theorem startTimes_of_not_runnable (h : ¬ a.IsRunnable) : a.startTimes = [] := by
  unfold startTimes launch?
  split
  · rename_i l hl
    split at hl
    · rename_i mode content hlookup
      have hbit : hasRunBit mode = false :=
        Bool.eq_false_iff.2 fun hbit => h ⟨mode, content, hlookup, hasRunBit_iff.1 hbit⟩
      simp [hbit] at hl
    · cases hl
  · rfl

/-- Exactly the files that somebody may run are started, at most six times. -/
theorem startTimes_eq_nil_iff : a.startTimes = [] ↔ ¬ a.IsRunnable := by
  refine ⟨?_, startTimes_of_not_runnable⟩
  intro hnil hrun
  obtain ⟨k, hk⟩ := exists_decides a.start
  simp [startTimes_of_runnable hrun hk] at hnil

theorem startTimes_length_le (a : Answers) : a.startTimes.length ≤ 6 := by
  by_cases hrun : a.IsRunnable
  · obtain ⟨k, hk⟩ := exists_decides a.start
    rw [startTimes_of_runnable hrun hk, List.length_map, List.length_range]
    exact Nat.succ_le_succ hk.le
  · simp [startTimes_of_not_runnable hrun]

/-- The pause before the retry with number `k` is `k` times twenty milliseconds. -/
theorem startTimes_getElem_succ (a : Answers) (k : Nat) (h : k + 1 < a.startTimes.length) :
    a.startTimes[k + 1] = a.startTimes[k] + 20 * (k + 1) := by
  by_cases hrun : a.IsRunnable
  · obtain ⟨j, hj⟩ := exists_decides a.start
    simp only [startTimes_of_runnable hrun hj, List.getElem_map, List.getElem_range]
    rfl
  · simp [startTimes_of_not_runnable hrun] at h

/-- A trial gives exactly one of the verdicts, by what the look-up, the starts and the wait answer.
Only regular files that somebody may run are started, at most six times and with pauses that grow
by twenty milliseconds, and the first answer that is not busy is the one that counts, or the
sixth. A program that is started counts as it ends, unless the limit passes before that. -/
theorem verdict_classifies (limit : Duration) (a : Answers) :
    (a.verdict limit = .valid ↔ a.IsRunnable ∧ a.IsStarted ∧ a.EndsBy limit (.code 0)) ∧
      (a.verdict limit = .missing ↔ ∃ e, a.lookup = .error e ∧ e.osError? = some .noEntry) ∧
      (a.verdict limit = .notAFile ↔ ∃ entry, a.lookup = .ok entry ∧ entry.isFile = false) ∧
      (a.verdict limit = .notExecutable ↔
        (∃ mode content, a.lookup = .ok (.file mode content) ∧ mode &&& 0o111 = 0) ∨
          a.IsRunnable ∧
            ∃ k e, Decides a.start k ∧ a.start k = some e ∧ isDenied e = true) ∧
      (∀ c, a.verdict limit = .exitedWith (some c) ↔
        a.IsRunnable ∧ a.IsStarted ∧ ∃ n : Nat, n ≠ 0 ∧ c = n ∧ a.EndsBy limit (.code n)) ∧
      (a.verdict limit = .exitedWith none ↔
        a.IsRunnable ∧ a.IsStarted ∧ ∃ n, a.EndsBy limit (.signal n)) ∧
      (∀ d, a.verdict limit = .timedOut d ↔
        a.IsRunnable ∧ a.IsStarted ∧ d = limit ∧ a.Outlasts limit) ∧
      (a.startTimes = [] ↔ ¬ a.IsRunnable) ∧
      a.startTimes.length ≤ 6 ∧
      (∀ k (_ : k + 1 < a.startTimes.length),
        a.startTimes[k + 1] = a.startTimes[k] + 20 * (k + 1)) ∧
      (a.IsRunnable → ∃ k, Decides a.start k ∧ a.startTimes.length = k + 1 ∧
        (∀ e, a.start k = some e →
          a.verdict limit = if isDenied e then .notExecutable else .spawnFailed e.text) ∧
        (∀ e, a.start k = some e → e.osError? = some .noEntry →
          a.verdict limit = .spawnFailed e.text) ∧
        (∀ exit, a.start k = none → a.EndsBy limit exit → a.verdict limit = exitVerdict exit)) := by
  refine ⟨verdict_eq_valid_iff, verdict_eq_missing_iff, verdict_eq_notAFile_iff,
    verdict_eq_notExecutable_iff, ?_, verdict_eq_killed_iff, ?_, startTimes_eq_nil_iff,
    a.startTimes_length_le, a.startTimes_getElem_succ, ?_⟩
  · intro c
    exact verdict_eq_exited_iff
  · intro d
    exact verdict_eq_timedOut_iff
  intro hrun
  obtain ⟨k, hk⟩ := exists_decides a.start
  have hverdict : a.verdict limit = startVerdict limit a.wait (a.start k) :=
    verdict_of_runnable hrun hk
  refine ⟨k, hk, by simp [startTimes_of_runnable hrun hk], ?_, ?_, ?_⟩
  · intro e he
    rw [hverdict, he, startVerdict]
  · intro e he hno
    have hdenied : isDenied e = false := by simp [isDenied, hno]; decide
    rw [hverdict, he, startVerdict, hdenied]
    rfl
  · intro exit hnone hends
    rw [hverdict, hnone, startVerdict]
    rcases a.waitVerdict_cases limit with ⟨-, hno, -⟩ | ⟨exit', -, hall, hv⟩
    · exact absurd hends (hno exit)
    · rw [hv, (hall exit).1 hends]

end Answers

end ServerLauncher.Probe
