import Slipway.Proofs.Stages

/-!
# What the smoke tests accept

The verdict on a binary depends on two answers of the runner and on nothing else. It is read off
the raw bytes, although the first test compares texts that were decoded with replacements.
-/

namespace Slipway

open World

variable {σ : Type} {runner : Runner σ} {may : Refusals} {w w' : World σ} {artifact : Artifact}
  {binary : Path} {first second : Except SystemError ProcessOutput} {e e' : VerificationError}

/-! ## The intended behaviour -/

/-- The seven bytes of `<tag />`. -/
def formattedBytes : Bytes := [0x3c, 0x74, 0x61, 0x67, 0x20, 0x2f, 0x3e]

/-- The answer of a binary that brought valid input into its normal form. -/
def Normalises : Except SystemError ProcessOutput → Prop
  | .error _ => False
  | .ok output => output.code = some 0 ∧ output.stdout = formattedBytes

/-- The answer of a binary that ended without success, by whatever code or signal. -/
def Rejects : Except SystemError ProcessOutput → Prop
  | .error _ => False
  | .ok output => output.code ≠ some 0

/-- The error for an answer to valid input. A failure goes before a wrong output. -/
inductive FormatFault (binary : Path) (first : Except SystemError ProcessOutput) :
    VerificationError → Prop
  | unstarted {source : SystemError} (failed : first = .error source) :
    FormatFault binary first (.spawn .format binary source)
  | unsuccessful {output : ProcessOutput} (answered : first = .ok output)
    (failure : output.code ≠ some 0) :
    FormatFault binary first
      (.formatFailed binary output.code (trimBlanks (Utf8.decodeLossy output.stderr)))
  | unexpected {output : ProcessOutput} (answered : first = .ok output)
    (success : output.code = some 0) (differs : output.stdout ≠ formattedBytes) :
    FormatFault binary first
      (.unexpectedOutput binary "<tag />" (Utf8.decodeLossy output.stdout))

/-- The error for an answer to malformed input. -/
inductive StrictFault (binary : Path) (second : Except SystemError ProcessOutput) :
    VerificationError → Prop
  | unstarted {source : SystemError} (failed : second = .error source) :
    StrictFault binary second (.spawn .strictExitCode binary source)
  | accepted {output : ProcessOutput} (answered : second = .ok output)
    (success : output.code = some 0) :
    StrictFault binary second (.strictModeAccepted binary)

/-- The error of the first check that fails. -/
def Complaint (binary : Path) (first second : Except SystemError ProcessOutput)
    (e : VerificationError) : Prop :=
  FormatFault binary first e ∨ Normalises first ∧ StrictFault binary second e

theorem FormatFault.not_normalises (h : FormatFault binary first e) : ¬ Normalises first := by
  intro hnormal
  cases h with
  | unstarted failed => simp [failed, Normalises] at hnormal
  | unsuccessful answered failure => simp [answered, Normalises, failure] at hnormal
  | unexpected answered _ differs => simp [answered, Normalises, differs] at hnormal

theorem StrictFault.not_rejects (h : StrictFault binary second e) : ¬ Rejects second := by
  intro hrejects
  cases h with
  | unstarted failed => simp [failed, Rejects] at hrejects
  | accepted answered success => simp [answered, Rejects, success] at hrejects

theorem FormatFault.unique (h : FormatFault binary first e) (h' : FormatFault binary first e') :
    e = e' := by
  cases h <;> cases h' <;> simp_all

theorem StrictFault.unique (h : StrictFault binary second e) (h' : StrictFault binary second e') :
    e = e' := by
  cases h <;> cases h' <;> simp_all

theorem Complaint.not_passed (h : Complaint binary first second e) :
    ¬ (Normalises first ∧ Rejects second) := by
  rintro ⟨hfirst, hsecond⟩
  rcases h with hfault | ⟨-, hfault⟩
  · exact hfault.not_normalises hfirst
  · exact hfault.not_rejects hsecond

theorem Complaint.unique (h : Complaint binary first second e)
    (h' : Complaint binary first second e') : e = e' := by
  rcases h with h | ⟨hnormal, h⟩ <;> rcases h' with h' | ⟨hnormal', h'⟩
  · exact h.unique h'
  · exact absurd hnormal' h.not_normalises
  · exact absurd hnormal h'.not_normalises
  · exact h.unique h'

/-! ## Single tests -/

theorem encode_formatExpected : Utf8.encode formatExpected = formattedBytes := by decide

/-- No other bytes decode to the expected text, with replacements or without. -/
theorem decodeLossy_eq_formatExpected {bytes : Bytes} :
    Utf8.decodeLossy bytes = formatExpected ↔ bytes = formattedBytes := by
  rw [← encode_formatExpected]
  constructor
  · intro h
    exact Utf8.decodeLossy_sound h (by decide)
  · rintro rfl
    decide

theorem testResult_format_cases (binary : Path) (first : Except SystemError ProcessOutput) :
    (∃ e, testResult .format binary judgeFormat first = .error e ∧ FormatFault binary first e) ∨
      ∃ output, first = .ok output ∧ Normalises first ∧
        testResult .format binary judgeFormat first = .ok (passedOutcome .format output) := by
  unfold testResult
  match first with
  | .error source => exact Or.inl ⟨_, rfl, .unstarted rfl⟩
  | .ok output =>
    unfold judgeFormat
    dsimp only
    split_ifs with hcode htext
    · exact Or.inl ⟨_, rfl, .unsuccessful rfl (by simpa [ProcessOutput.success] using hcode)⟩
    · refine Or.inl ⟨_, rfl, .unexpected rfl (by simpa [ProcessOutput.success] using hcode) ?_⟩
      exact fun hbytes => htext (decodeLossy_eq_formatExpected.mpr hbytes)
    · refine Or.inr ⟨output, rfl, ⟨by simpa [ProcessOutput.success] using hcode, ?_⟩, rfl⟩
      exact decodeLossy_eq_formatExpected.mp (not_not.mp htext)

theorem testResult_strict_cases (binary : Path) (second : Except SystemError ProcessOutput) :
    (∃ e, testResult .strictExitCode binary judgeStrict second = .error e ∧
        StrictFault binary second e) ∨
      ∃ output, second = .ok output ∧ Rejects second ∧
        testResult .strictExitCode binary judgeStrict second =
          .ok (passedOutcome .strictExitCode output) := by
  unfold testResult
  match second with
  | .error source => exact Or.inl ⟨_, rfl, .unstarted rfl⟩
  | .ok output =>
    unfold judgeStrict
    dsimp only
    split_ifs with hcode
    · exact Or.inl ⟨_, rfl, .accepted rfl (by simpa [ProcessOutput.success] using hcode)⟩
    · exact Or.inr ⟨output, rfl, by simpa [Rejects, ProcessOutput.success] using hcode, rfl⟩

/-! ## Both tests -/

/-- The verdict on an artifact that gave the answers `first` and `second`. -/
structure Verdict (artifact : Artifact) (first second : Except SystemError ProcessOutput)
    (r : Except VerificationError VerifiedArtifact) : Prop where
  accepts : (∃ verified, r = .ok verified) ↔ Normalises first ∧ Rejects second
  complains : ∀ e, r = .error e ↔ Complaint artifact.path first second e
  /-- The artifact comes back as it is, with what the two tests saw. -/
  returns : ∀ verified, r = .ok verified → ∃ formatted rejected,
    first = .ok formatted ∧ second = .ok rejected ∧ verified = ⟨artifact, [
      ⟨.format, true, formatted.code, Utf8.decodeLossy formatted.stdout,
        Utf8.decodeLossy formatted.stderr⟩,
      ⟨.strictExitCode, true, rejected.code, Utf8.decodeLossy rejected.stdout,
        Utf8.decodeLossy rejected.stderr⟩]⟩

theorem Verdict.of_complaint (h : Complaint artifact.path first second e) :
    Verdict artifact first second (.error e) where
  accepts := by simpa using h.not_passed
  complains e' := by
    constructor
    · intro he
      obtain rfl := Except.error.inj he
      exact h
    · intro h'
      rw [h.unique h']
  returns := by simp

theorem Verdict.of_passed {formatted rejected : ProcessOutput}
    (hnormal : Normalises (.ok formatted)) (hrejects : Rejects (.ok rejected)) :
    Verdict artifact (.ok formatted) (.ok rejected)
      (.ok ⟨artifact, [passedOutcome .format formatted, passedOutcome .strictExitCode rejected]⟩)
    where
  accepts := by simp [hnormal, hrejects]
  complains e := by simpa using fun h : Complaint _ _ _ e => h.not_passed ⟨hnormal, hrejects⟩
  returns := by
    rintro verified hverified
    obtain rfl := Except.ok.inj hverified
    exact ⟨formatted, rejected, rfl, rfl, rfl⟩

/-- The tests accept exactly the intended behaviour. The second process is started where the first
one passed, and nothing else happens to the machine. -/
theorem smoke_tests_exact (runner : Runner σ) (w : World σ) (artifact : Artifact) :
    let first := w.reply runner (.start (formatInvocation artifact.path))
    let second := first.2.reply runner (.start (strictInvocation artifact.path))
    let ended := w.run runner (verify artifact).run
    Verdict artifact first.1 second.1 ended.1 ∧
      (Normalises first.1 → second.2.Untouched ended.2) ∧
      (¬ Normalises first.1 → first.2.Untouched ended.2) ∧
      ∀ bytes, Utf8.decodeLossy bytes = formatExpected ↔ bytes = formattedBytes := by
  intro first second ended
  obtain ⟨x, w₁, hcalled, hended⟩ :=
    runs_verify_answered (runs_run runner Refusals.never w (verify artifact).run)
  obtain ⟨hx, hleft⟩ := hcalled.reply
  rcases hended with ⟨e, he, hr, hw⟩ | ⟨format, y, hformat, hcalled', hr⟩
  · rcases testResult_format_cases artifact.path x with ⟨e', he', hfault⟩ | ⟨_, -, -, hok⟩
    · obtain rfl := Except.error.inj (he'.symm.trans he)
      refine ⟨?_, ?_, fun _ => hw ▸ hleft, fun _ => decodeLossy_eq_formatExpected⟩
      · rw [show ended.1 = _ from hr]
        exact .of_complaint (Or.inl (hx ▸ hfault))
      · exact fun hnormal => absurd (hx ▸ hnormal) hfault.not_normalises
    · simp [hok] at he
  · obtain ⟨hy, hleft'⟩ := (hcalled'.since hleft).reply
    rcases testResult_format_cases artifact.path x with ⟨e, he, -⟩ | ⟨formatted, hfirst, hnormal, hok⟩
    · simp [he] at hformat
    · obtain rfl := Except.ok.inj (hok.symm.trans hformat)
      refine ⟨?_, fun _ => hleft', fun hnot => absurd (hx ▸ hnormal) hnot,
        fun _ => decodeLossy_eq_formatExpected⟩
      rw [show ended.1 = _ from hr, show first.1 = x from hx.symm, show second.1 = y from hy.symm]
      rcases testResult_strict_cases artifact.path y with
        ⟨e, he, hfault⟩ | ⟨rejected, rfl, hrejects, hok'⟩
      · rw [he]
        exact .of_complaint (Or.inr ⟨hnormal, hfault⟩)
      · subst hfirst
        rw [hok']
        exact .of_passed hnormal hrejects

end Slipway
