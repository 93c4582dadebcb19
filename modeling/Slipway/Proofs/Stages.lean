import Slipway.Proofs.Packaging
import Slipway.Proofs.Version
import Slipway.Release.Pipeline

/-!
# How each stage ends

What the runner was asked and what it answered, for every way in which building and testing can
end, and how the stages follow each other in a release.
-/

namespace Slipway

open FileSystem World

variable {σ : Type} {runner : Runner σ} {may : Refusals} {w w' : World σ} {settings : Settings}
  {toolchain : Path} {host : Host} {arch : Arch}

/-! ## Calls of the runner -/

namespace World

theorem Untouched.refl (w : World σ) : w.Untouched w := ⟨rfl, Idle.refl w⟩

/-- The runner was called once, and nothing else happened to the machine. -/
def Called (runner : Runner σ) (w : World σ) (i : Invocation)
    (r : Except SystemError ProcessOutput) (w' : World σ) : Prop :=
  runner i w.machine w.runner = (r, w'.machine, w'.runner) ∧ w'.started = i :: w.started

variable {i : Invocation} {r : Except SystemError ProcessOutput}

theorem Called.since {w₁ : World σ} (hc : w₁.Called runner i r w') (h : w.Untouched w₁) :
    w.Called runner i r w' := by
  obtain ⟨hm, hr, hs⟩ := h
  obtain ⟨hcall, hstarted⟩ := hc
  rw [hm, hr] at hcall
  exact ⟨hcall, by rw [hstarted, hs]⟩

theorem Called.untouched {w₁ : World σ} (hc : w.Called runner i r w₁) (h : w₁.Untouched w') :
    w.Called runner i r w' := by
  obtain ⟨hm, hr, hs⟩ := h
  obtain ⟨hcall, hstarted⟩ := hc
  exact ⟨by rw [hcall, hm, hr], by rw [hs, hstarted]⟩

theorem Called.reply (h : w.Called runner i r w') :
    r = (w.reply runner (.start i)).1 ∧ (w.reply runner (.start i)).2.Untouched w' := by
  obtain ⟨hcall, hstarted⟩ := h
  simp only [World.reply, hcall, Untouched, Idle, hstarted, and_self]

end World

theorem runs_launch {i : Invocation} {r : Except SystemError ProcessOutput}
    (h : w.Runs runner may (launch i).run r w') : w.Called runner i r w' := by
  rw [launch, runs_note_bind, runs_stage_bind] at h
  have hcall : ∀ {w₁ : World σ} {x : Except SystemError ProcessOutput} {w₂ : World σ},
      w₁.Runs runner may (Stage.attempt (Program.perform (.start i))).run x w₂ →
        w₁.Called runner i x w₂ := by
    intro w₁ x w₂ hstart
    rw [runs_attempt, runs_perform] at hstart
    obtain ⟨rfl, rfl⟩ := Prod.mk.inj hstart
    exact ⟨rfl, rfl⟩
  have hbefore : w.Untouched
      { w with messages := .event (.spawningProcess i.commandLine) :: w.messages } :=
    ⟨rfl, rfl, rfl⟩
  rcases h with ⟨output, w₁, hstart, h⟩ | ⟨e, hstart, rfl⟩
  · rw [runs_note_bind] at h
    have hafter : w₁.Untouched w' ∧ r = .ok output := by
      split at h
      · rw [runs_note_bind] at h
        obtain ⟨rfl, rfl⟩ := h
        exact ⟨⟨rfl, rfl, rfl⟩, rfl⟩
      · obtain ⟨rfl, rfl⟩ := h
        exact ⟨⟨rfl, rfl, rfl⟩, rfl⟩
    rw [hafter.2]
    exact ((hcall hstart).since hbefore).untouched hafter.1
  · exact (hcall hstart).since hbefore

/-! ## Building -/

/-- How a build ended. -/
inductive Built (runner : Runner σ) (toolchain : Path) (settings : Settings)
    (request : BuildRequest) (w w' : World σ) : Except BuildError Artifact → Prop
  /-- Nothing was moved. When the toolchain succeeded without an output, the error says so. -/
  | failed {e : BuildError} {r : Except SystemError ProcessOutput}
    (called : w.Called runner (publishInvocation toolchain settings request) r w')
    (missing : ∀ output, r = .ok output → output.code = some 0 →
      w'.machine.files.satisfies w'.machine.directory (producedPath settings request.os)
        Node.isRegular = false → e = .missingOutput (producedPath settings request.os)) :
    Built runner toolchain settings request w w' (.error e)
  /-- The published binary has its canonical name. -/
  | moved {w₁ : World σ} {output : ProcessOutput} {path : Path}
    {moved : FileSystem × Location × Location}
    (called : w.Called runner (publishInvocation toolchain settings request) (.ok output) w₁)
    (success : output.code = some 0)
    (seen : w₁.machine.files.satisfies w₁.machine.directory (producedPath settings request.os)
      Node.isRegular = true)
    (renamed : w₁.machine.files.renameWith w₁.machine.directory
      (producedPath settings request.os) (canonicalPath settings request.os) = .ok moved)
    (machine : w'.machine = (w₁.machine.renamed (.ok moved)).2)
    (idle : w₁.Idle w')
    (found : path = canonicalPath settings request.os ∨ w'.machine.files.canonicalize
      w'.machine.directory (canonicalPath settings request.os) = .ok path) :
    Built runner toolchain settings request w w' (.ok ⟨path, request⟩)

theorem renamed_frame {m : Machine} {dir : Path} {name newName : String}
    {moved : FileSystem × Location × Location} (hn : IsName name) (hn' : IsName newName)
    (h : m.files.renameWith m.directory (dir.join name) (dir.join newName) = .ok moved) :
    ∃ place, m.files.Reaches m.directory dir place ∧ ∀ q, ¬ place ++ [name] <+: q →
      ¬ place ++ [newName] <+: q → (m.renamed (.ok moved)).2.files.node? q = m.files.node? q := by
  obtain ⟨place, hreach, hplaces, node, -, hmoved⟩ := renameWith_join hn hn' h
  refine ⟨place, hreach, fun q hq hq' => ?_⟩
  obtain ⟨files, origin, destination⟩ := moved
  obtain ⟨rfl, rfl⟩ := Prod.mk.inj hplaces
  simp only [Machine.renamed]
  split_ifs
  · rfl
  · rcases hmoved with ⟨rfl, -⟩ | ⟨hmoved, -⟩
    · rfl
    · simp only at hmoved
      rw [hmoved]
      exact node?_moveTree_of_apart hq hq'

/-- The published binary is looked for and renamed, once each, and only the rename changes the
machine. Where the binary belongs is told in full if the system can. -/
theorem runs_relocate_steps {os : Os} {r : Except BuildError Path}
    (h : w.Runs runner may (relocate settings os).run r w') :
    w.Idle w' ∧
      ((w.machine.files.satisfies w.machine.directory (producedPath settings os) Node.isRegular = true →
          may (.isRegularFile (producedPath settings os))) ∧
          r = .error (.missingOutput (producedPath settings os)) ∧ w'.machine = w.machine ∨
        w.machine.files.satisfies w.machine.directory (producedPath settings os)
            Node.isRegular = true ∧
          ∃ renamed, w.machine.Performs may
              (.rename (producedPath settings os) (canonicalPath settings os)) renamed w'.machine ∧
            ((∃ e, renamed = .error e ∧
                r = .error (.relocate (producedPath settings os) (canonicalPath settings os) e)) ∨
              renamed = .ok () ∧ ∃ path, r = .ok path ∧
                (w'.machine.files.canonicalize w'.machine.directory (canonicalPath settings os)
                    = .ok path ∨
                  path = canonicalPath settings os ∧
                    ∀ found, w'.machine.files.canonicalize w'.machine.directory
                      (canonicalPath settings os) = .ok found →
                        may (.canonicalize (canonicalPath settings os))))) := by
  rw [relocate, runs_lift_bind] at h
  obtain ⟨regular, w₁, hregular, h⟩ := h
  rw [runs_file] at hregular
  obtain ⟨m, hperf, rfl⟩ := hregular
  obtain rfl := Machine.performs_asks hperf trivial
  cases regular with
  | false =>
    dsimp only at h
    rw [if_neg (by simp), runs_throw_bind] at h
    obtain ⟨rfl, rfl⟩ := h
    refine ⟨Idle.refl _, Or.inl ⟨fun hseen => ?_, rfl, rfl⟩⟩
    rcases hperf with hreply | ⟨hmay, -⟩
    · have hfalse : false = true := (congrArg Prod.fst hreply).trans hseen
      simp at hfalse
    · exact hmay
  | true =>
    have hseen : w.machine.files.satisfies w.machine.directory (producedPath settings os)
        Node.isRegular = true :=
      (Machine.performs_ok hperf (by simp [FileAction.failure])).1.symm
    dsimp only at h
    rw [if_pos rfl, runs_stage_bind] at h
    -- The binary was seen, so the rename is tried; its error is the end of the relocation.
    rcases h with ⟨u, w₂, hrename, h⟩ | ⟨e, hrename, rfl⟩
    · rw [runs_orElse_ok, runs_attempt, runs_file] at hrename
      obtain ⟨m, hrenamed, rfl⟩ := hrename
      rw [runs_lift_bind] at h
      obtain ⟨reply, w₃, hcanon, h⟩ := h
      rw [runs_file] at hcanon
      obtain ⟨m, hask, rfl⟩ := hcanon
      obtain rfl := Machine.performs_asks hask trivial
      rcases reply with e | path
      · obtain ⟨rfl, rfl⟩ := h
        refine ⟨Idle.refl _, Or.inr ⟨hseen, .ok (), hrenamed, Or.inr ⟨rfl, _, rfl, Or.inr ⟨rfl, ?_⟩⟩⟩⟩
        intro found hfound
        rcases hask with hreply | ⟨hmay, -⟩
        · have herror : Except.error e = Except.ok found := (congrArg Prod.fst hreply).trans hfound
          simp at herror
        · exact hmay
      · obtain ⟨rfl, rfl⟩ := h
        obtain ⟨hr, -⟩ := Machine.performs_ok hask (by simp [FileAction.failure])
        exact ⟨Idle.refl _, Or.inr ⟨hseen, .ok (), hrenamed, Or.inr ⟨rfl, path, rfl, Or.inl hr.symm⟩⟩⟩
    · obtain ⟨e', rfl, hfailed⟩ := runs_orElse_error.mp hrename
      rw [runs_attempt, runs_file] at hfailed
      obtain ⟨m, hrenamed, rfl⟩ := hfailed
      exact ⟨Idle.refl _, Or.inr ⟨hseen, .error e', hrenamed, Or.inl ⟨e', rfl, rfl⟩⟩⟩

theorem runs_relocate {os : Os} {r : Except BuildError Path}
    (h : w.Runs runner may (relocate settings os).run r w') :
    (∃ e, r = .error e ∧ (w.machine.files.satisfies w.machine.directory (producedPath settings os)
        Node.isRegular = false → e = .missingOutput (producedPath settings os))) ∧
        w.Untouched w' ∨
      ∃ path moved, r = .ok path ∧
        w.machine.files.satisfies w.machine.directory (producedPath settings os)
          Node.isRegular = true ∧
        w.machine.files.renameWith w.machine.directory
          (producedPath settings os) (canonicalPath settings os) = .ok moved ∧
        w'.machine = (w.machine.renamed (.ok moved)).2 ∧ w.Idle w' ∧
        (path = canonicalPath settings os ∨ w'.machine.files.canonicalize w'.machine.directory
          (canonicalPath settings os) = .ok path) := by
  obtain ⟨hidle, ⟨-, rfl, hm⟩ | ⟨hseen, renamed, hperf, hends⟩⟩ := runs_relocate_steps h
  · exact Or.inl ⟨⟨_, rfl, fun _ => rfl⟩, hm, hidle⟩
  · rcases Machine.performs_rename hperf with ⟨⟨e, rfl⟩, hm⟩ | ⟨rfl, moved, hmoved, hm⟩
    · obtain ⟨e, -, rfl⟩ := hends.resolve_right (by simp)
      exact Or.inl ⟨⟨_, rfl, fun hunseen => by simp [hunseen] at hseen⟩, hm, hidle⟩
    · obtain ⟨-, path, rfl, hpath⟩ := hends.resolve_left (by simp)
      exact Or.inr ⟨path, moved, rfl, hseen, hmoved, hm, hidle, hpath.symm.imp_left And.left⟩

theorem runs_build_steps {request : BuildRequest} {r : Except BuildError Artifact}
    (h : w.Runs runner may (build toolchain settings request).run r w') :
    ∃ answer w₁, w.Called runner (publishInvocation toolchain settings request) answer w₁ ∧
      ((∃ e, answer = .error e ∧ w₁.Untouched w' ∧
          r = .error (.spawn (publishInvocation toolchain settings request).commandLine e)) ∨
        (∃ output, answer = .ok output ∧ output.code ≠ some 0 ∧ w₁.Untouched w' ∧
          r = .error (.failed (publishInvocation toolchain settings request).commandLine output.code
            (trimBlanks output.stderrText))) ∨
        ∃ output, answer = .ok output ∧ output.code = some 0 ∧ ∃ x w₂,
          w₁.Runs runner may (relocate settings request.os).run x w₂ ∧ w₂.Untouched w' ∧
            r = x.map (fun path => ⟨path, request⟩)) := by
  rw [build, runs_note_bind] at h
  dsimp only at h
  rw [runs_note_bind, runs_stage_bind] at h
  rcases h with ⟨output, w₁, hlaunch, h⟩ | ⟨e, hlaunch, rfl⟩
  · rw [runs_orElse_ok] at hlaunch
    refine ⟨.ok output, w₁, (runs_launch hlaunch).since ⟨rfl, rfl, rfl⟩, Or.inr ?_⟩
    cases hsuccess : output.success with
    | false =>
      rw [if_neg (by simp [hsuccess]), runs_throw_bind] at h
      obtain ⟨rfl, rfl⟩ := h
      exact Or.inl ⟨output, rfl, by simpa [ProcessOutput.success] using hsuccess,
        Untouched.refl _, rfl⟩
    | true =>
      rw [if_pos hsuccess, runs_stage_bind] at h
      refine Or.inr ⟨output, rfl, by simpa [ProcessOutput.success] using hsuccess, ?_⟩
      rcases h with ⟨path, w₂, hrelocate, h⟩ | ⟨e, hrelocate, rfl⟩
      · rw [runs_note_bind] at h
        obtain ⟨rfl, rfl⟩ := h
        exact ⟨_, w₂, hrelocate, ⟨rfl, rfl, rfl⟩, rfl⟩
      · exact ⟨_, w', hrelocate, Untouched.refl _, rfl⟩
  · obtain ⟨e', rfl, hfailed⟩ := runs_orElse_error.mp hlaunch
    exact ⟨.error e', w', (runs_launch hfailed).since ⟨rfl, rfl, rfl⟩,
      Or.inl ⟨e', rfl, Untouched.refl _, rfl⟩⟩

theorem runs_build {request : BuildRequest} {r : Except BuildError Artifact}
    (h : w.Runs runner may (build toolchain settings request).run r w') :
    Built runner toolchain settings request w w' r := by
  obtain ⟨answer, w₁, hcalled, ⟨e, rfl, hsame, rfl⟩ | ⟨output, rfl, hcode, hsame, rfl⟩ |
    ⟨output, rfl, hcode, x, w₂, hrelocate, hsame, rfl⟩⟩ := runs_build_steps h
  · exact .failed (hcalled.untouched hsame) (by simp)
  · refine .failed (hcalled.untouched hsame) (fun output' ho hcode' => ?_)
    obtain rfl := Except.ok.inj ho
    exact absurd hcode' hcode
  · rcases runs_relocate hrelocate with
      ⟨⟨e, rfl, hmissing⟩, hsame'⟩ | ⟨path, moved, rfl, hseen, hmoved, hm, hidle, hpath⟩
    · have hstays := hsame'.trans hsame
      refine .failed (hcalled.untouched hstays) (fun _ _ _ hunseen => ?_)
      rw [hstays.1] at hunseen
      exact hmissing hunseen
    · refine .moved hcalled hcode hseen hmoved (hsame.1.trans hm) (hidle.trans hsame.2) ?_
      rwa [hsame.1]

/-! ## Testing -/

/-- What becomes of a smoke test when the runner answers `r`. -/
def testResult (test : SmokeTest) (binary : Path)
    (judge : Path → ProcessOutput → Except VerificationError Unit)
    (r : Except SystemError ProcessOutput) : Except VerificationError SmokeTestOutcome :=
  match r with
  | .error e => .error (.spawn test binary e)
  | .ok output => (judge binary output).map (fun _ => passedOutcome test output)

theorem runs_runFormatTest {binary : Path} {r : Except VerificationError SmokeTestOutcome}
    (h : w.Runs runner may (runFormatTest binary).run r w') :
    ∃ x, w.Called runner (formatInvocation binary) x w' ∧
      r = testResult .format binary judgeFormat x := by
  rw [runFormatTest, runs_note_bind, runs_stage_bind] at h
  rcases h with ⟨output, w₁, hlaunch, h⟩ | ⟨e, hlaunch, rfl⟩
  · rw [runs_orElse_ok] at hlaunch
    refine ⟨.ok output, ?_, ?_⟩
    · have hcalled : w.Called runner (formatInvocation binary) (.ok output) w₁ :=
        (runs_launch hlaunch).since ⟨rfl, rfl, rfl⟩
      rw [runs_stage_bind] at h
      rcases h with ⟨u, w₂, ⟨-, rfl⟩, -, rfl⟩ | ⟨e, ⟨-, rfl⟩, -⟩ <;> exact hcalled
    · rw [runs_stage_bind] at h
      unfold testResult
      rcases h with ⟨u, w₂, ⟨hj, rfl⟩, rfl, rfl⟩ | ⟨e, ⟨hj, rfl⟩, rfl⟩ <;> simp [← hj, Except.map]
  · obtain ⟨e', rfl, hfailed⟩ := runs_orElse_error.mp hlaunch
    exact ⟨.error e', (runs_launch hfailed).since ⟨rfl, rfl, rfl⟩, rfl⟩

theorem runs_runStrictTest {binary : Path} {r : Except VerificationError SmokeTestOutcome}
    (h : w.Runs runner may (runStrictTest binary).run r w') :
    ∃ x, w.Called runner (strictInvocation binary) x w' ∧
      r = testResult .strictExitCode binary judgeStrict x := by
  rw [runStrictTest, runs_note_bind, runs_stage_bind] at h
  rcases h with ⟨output, w₁, hlaunch, h⟩ | ⟨e, hlaunch, rfl⟩
  · rw [runs_orElse_ok] at hlaunch
    have hcalled : w.Called runner (strictInvocation binary) (.ok output) w₁ :=
      (runs_launch hlaunch).since ⟨rfl, rfl, rfl⟩
    rw [runs_stage_bind] at h
    unfold testResult
    rcases h with ⟨u, w₂, ⟨hj, rfl⟩, h⟩ | ⟨e, ⟨hj, rfl⟩, rfl⟩
    · rw [runs_note_bind] at h
      obtain ⟨rfl, rfl⟩ := h
      exact ⟨.ok output, hcalled.untouched ⟨rfl, rfl, rfl⟩, by simp [← hj, Except.map]⟩
    · exact ⟨.ok output, hcalled, by simp [← hj, Except.map]⟩
  · obtain ⟨e', rfl, hfailed⟩ := runs_orElse_error.mp hlaunch
    exact ⟨.error e', (runs_launch hfailed).since ⟨rfl, rfl, rfl⟩, rfl⟩

/-- The smoke test that an error is about. -/
def VerificationError.test : VerificationError → SmokeTest
  | .spawn test _ _ => test
  | .formatFailed _ _ _ => .format
  | .unexpectedOutput _ _ _ => .format
  | .strictModeAccepted _ => .strictExitCode

theorem testResult_format (binary : Path) (r : Except SystemError ProcessOutput) :
    (∃ e, testResult .format binary judgeFormat r = .error e ∧ e.test = .format) ∨
      ∃ output, r = .ok output ∧ output.code = some 0 ∧
        output.stdout = Utf8.encode formatExpected ∧
        testResult .format binary judgeFormat r = .ok (passedOutcome .format output) := by
  unfold testResult
  match r with
  | .error e => exact Or.inl ⟨_, rfl, rfl⟩
  | .ok output =>
    unfold judgeFormat
    dsimp only
    split_ifs with hcode htext
    · exact Or.inl ⟨_, rfl, rfl⟩
    · exact Or.inl ⟨_, rfl, rfl⟩
    · have hdecoded : Utf8.decodeLossy output.stdout = formatExpected := not_not.mp htext
      refine Or.inr ⟨output, rfl, by simpa [ProcessOutput.success] using hcode, ?_, rfl⟩
      exact Utf8.decodeLossy_sound hdecoded (by decide)

theorem testResult_strict (binary : Path) (r : Except SystemError ProcessOutput) :
    (∃ e, testResult .strictExitCode binary judgeStrict r = .error e ∧
        e.test = .strictExitCode) ∨
      ∃ output, r = .ok output ∧ output.code ≠ some 0 ∧
        testResult .strictExitCode binary judgeStrict r
          = .ok (passedOutcome .strictExitCode output) := by
  unfold testResult
  match r with
  | .error e => exact Or.inl ⟨_, rfl, rfl⟩
  | .ok output =>
    unfold judgeStrict
    dsimp only
    split_ifs with hcode
    · exact Or.inl ⟨_, rfl, rfl⟩
    · exact Or.inr ⟨output, rfl, by simpa [ProcessOutput.success] using hcode, rfl⟩

/-- How the smoke tests of a binary ended. -/
inductive Tested (runner : Runner σ) (artifact : Artifact) (w w' : World σ) :
    Except VerificationError VerifiedArtifact → Prop
  /-- The first test did not pass. -/
  | format {e : VerificationError} {r : Except SystemError ProcessOutput}
    (called : w.Called runner (formatInvocation artifact.path) r w')
    (about : e.test = .format) :
    Tested runner artifact w w' (.error e)
  /-- The second test did not pass. -/
  | strict {e : VerificationError} {w₁ : World σ} {r r' : Except SystemError ProcessOutput}
    (called : w.Called runner (formatInvocation artifact.path) r w₁)
    (called' : w₁.Called runner (strictInvocation artifact.path) r' w')
    (about : e.test = .strictExitCode) :
    Tested runner artifact w w' (.error e)
  | passed {w₁ : World σ} {formatted rejected : ProcessOutput}
    (called : w.Called runner (formatInvocation artifact.path) (.ok formatted) w₁)
    (success : formatted.code = some 0)
    (stdout : formatted.stdout = Utf8.encode formatExpected)
    (called' : w₁.Called runner (strictInvocation artifact.path) (.ok rejected) w')
    (failure : rejected.code ≠ some 0) :
    Tested runner artifact w w' (.ok ⟨artifact,
      [passedOutcome .format formatted, passedOutcome .strictExitCode rejected]⟩)

/-- The second process is started when the first test passed, and both results are kept. -/
theorem runs_verify_answered {artifact : Artifact} {r : Except VerificationError VerifiedArtifact}
    (h : w.Runs runner may (verify artifact).run r w') :
    ∃ x w₁, w.Called runner (formatInvocation artifact.path) x w₁ ∧
      ((∃ e, testResult .format artifact.path judgeFormat x = .error e ∧ r = .error e ∧ w' = w₁) ∨
        ∃ format y, testResult .format artifact.path judgeFormat x = .ok format ∧
          w₁.Called runner (strictInvocation artifact.path) y w' ∧
          r = (testResult .strictExitCode artifact.path judgeStrict y).map
            (fun strict => ⟨artifact, [format, strict]⟩)) := by
  rw [verify, runs_note_bind, runs_stage_bind] at h
  rcases h with ⟨format, w₁, hformat, h⟩ | ⟨e, hformat, rfl⟩
  · obtain ⟨x, hcalled, hx⟩ := runs_runFormatTest hformat
    refine ⟨x, w₁, hcalled.since ⟨rfl, rfl, rfl⟩, Or.inr ⟨format, ?_⟩⟩
    rw [runs_stage_bind] at h
    rcases h with ⟨strict, w₂, hstrict, h⟩ | ⟨e, hstrict, rfl⟩
    · obtain ⟨y, hcalled', hy⟩ := runs_runStrictTest hstrict
      dsimp only at h
      rw [runs_note_bind] at h
      obtain ⟨rfl, rfl⟩ := h
      exact ⟨y, hx.symm, hcalled'.untouched ⟨rfl, rfl, rfl⟩, by rw [← hy]; rfl⟩
    · obtain ⟨y, hcalled', hy⟩ := runs_runStrictTest hstrict
      exact ⟨y, hx.symm, hcalled', by rw [← hy]; rfl⟩
  · obtain ⟨x, hcalled, hx⟩ := runs_runFormatTest hformat
    exact ⟨x, w', hcalled.since ⟨rfl, rfl, rfl⟩, Or.inl ⟨e, hx.symm, rfl, rfl⟩⟩

theorem runs_verify {artifact : Artifact} {r : Except VerificationError VerifiedArtifact}
    (h : w.Runs runner may (verify artifact).run r w') : Tested runner artifact w w' r := by
  obtain ⟨x, w₁, hcalled, ⟨e, he, rfl, rfl⟩ | ⟨format, y, hformat, hcalled', rfl⟩⟩ :=
    runs_verify_answered h
  · rcases testResult_format artifact.path x with ⟨e', he', habout⟩ | ⟨formatted, rfl, -, -, hok⟩
    · obtain rfl := Except.error.inj (he.symm.trans he')
      exact .format hcalled habout
    · simp [hok] at he
  · rcases testResult_format artifact.path x with ⟨e, he, -⟩ | ⟨formatted, rfl, hcode, hout, hok⟩
    · simp [he] at hformat
    · obtain rfl := Except.ok.inj (hformat.symm.trans hok)
      rcases testResult_strict artifact.path y with ⟨e, he, habout⟩ | ⟨rejected, rfl, hcode', hok'⟩
      · rw [he]
        exact .strict hcalled hcalled' habout
      · rw [hok']
        exact .passed hcalled hcode hout hcalled' hcode'

/-! ## Looking for what is in the way -/

/-- What is at the path can be seen, unless the system refuses to look. -/
def Unseen (may : Refusals) (m : Machine) (path : Path) : Prop :=
  m.files.exists? m.directory path = true → may (.pathExists path)

theorem firstExisting_only (paths : List Path) : (firstExisting paths).Only Action.Asks := by
  induction paths with
  | nil => exact Program.only_pure _
  | cons path rest ih =>
    refine Program.only_bind (only_file trivial) (fun there => ?_)
    cases there with
    | true => exact Program.only_pure _
    | false => exact ih

theorem performs_pathExists {m m' : Machine} {path : Path} {there : Bool}
    (h : m.Performs may (.pathExists path) there m') :
    there = true ∧ m.files.exists? m.directory path = true ∨
      there = false ∧ Unseen may m path := by
  rcases h with h | ⟨hmay, ⟨e, rfl⟩, -⟩
  · have hthere : there = m.files.exists? m.directory path := congrArg Prod.fst h
    cases there with
    | true => exact Or.inl ⟨rfl, hthere.symm⟩
    | false => exact Or.inr ⟨rfl, fun hex => absurd (hthere.trans hex) (by simp)⟩
  · exact Or.inr ⟨rfl, fun _ => hmay⟩

/-- Everything before the first path that is there was not seen. -/
theorem runs_firstExisting {paths : List Path} {r : Option Path}
    (h : w.Runs runner may (firstExisting paths) r w') :
    r = none ∧ (∀ path ∈ paths, Unseen may w.machine path) ∨
      ∃ before path after, r = some path ∧ paths = before ++ path :: after ∧
        w.machine.files.exists? w.machine.directory path = true ∧
        ∀ other ∈ before, Unseen may w.machine other := by
  induction paths generalizing w with
  | nil =>
    obtain ⟨rfl, -⟩ := h
    exact Or.inl ⟨rfl, by simp⟩
  | cons path rest ih =>
    rw [firstExisting, runs_bind] at h
    obtain ⟨there, w₁, hlook, h⟩ := h
    rw [runs_file] at hlook
    obtain ⟨m, hm, rfl⟩ := hlook
    obtain rfl := Machine.performs_asks hm trivial
    rcases performs_pathExists hm with ⟨rfl, hex⟩ | ⟨rfl, hunseen⟩
    · obtain ⟨rfl, -⟩ := h
      exact Or.inr ⟨[], path, rest, rfl, rfl, hex, by simp⟩
    · rcases ih h with ⟨rfl, hall⟩ | ⟨before, found, after, rfl, rfl, hex, hbefore⟩
      · refine Or.inl ⟨rfl, fun other ho => ?_⟩
        rcases List.mem_cons.mp ho with rfl | ho
        · exact hunseen
        · exact hall other ho
      · refine Or.inr ⟨path :: before, found, after, rfl, rfl, hex, fun other ho => ?_⟩
        rcases List.mem_cons.mp ho with rfl | ho
        · exact hunseen
        · exact hbefore other ho

theorem runs_ensureAvailable {request : BuildRequest} {r : Except PackagingError Unit}
    (h : w.Runs runner may (ensureAvailable settings request).run r w') :
    w.Untouched w' ∧
      (r = .ok () ∧ (settings.collision = .fail →
          ∀ path ∈ packageTargets settings request, Unseen may w.machine path) ∨
        ∃ before path after, r = .error (.packageExists path) ∧ settings.collision = .fail ∧
          packageTargets settings request = before ++ path :: after ∧
          w.machine.files.exists? w.machine.directory path = true ∧
          ∀ other ∈ before, Unseen may w.machine other) := by
  unfold ensureAvailable at h
  cases hc : settings.collision with
  | overwrite =>
    rw [hc] at h
    obtain ⟨rfl, rfl⟩ := h
    exact ⟨Untouched.refl _, Or.inl ⟨rfl, by simp⟩⟩
  | fail =>
    rw [hc] at h
    dsimp only at h
    rw [runs_lift_bind] at h
    obtain ⟨found, w₁, hfirst, h⟩ := h
    have huntouched := hfirst.untouched (firstExisting_only _)
    rcases runs_firstExisting hfirst with ⟨rfl, hall⟩ | ⟨before, path, after, rfl, heq, hex, hb⟩
    · obtain ⟨rfl, rfl⟩ := h
      exact ⟨huntouched, Or.inl ⟨rfl, fun _ => hall⟩⟩
    · obtain ⟨rfl, rfl⟩ := h
      exact ⟨huntouched, Or.inr ⟨before, path, after, rfl, rfl, heq, hex, hb⟩⟩

/-! ## The release -/

/-- The request of a release, and where its version comes from. -/
structure Requested (runner : Runner σ) (may : Refusals) (settings : Settings) (host : Host)
    (arch : Arch) (w : World σ) (request : BuildRequest) : Prop where
  os : host = .ok request.os
  arch : request.arch = arch
  version : ∃ w₁, w.Runs runner may (resolveVersion settings.versionFile).run
    (.ok request.version) w₁

/-- What a complete release reports. -/
def reportOf (request : BuildRequest) (artifact : Artifact) (verified : VerifiedArtifact)
    (package : Package) : Report where
  version := request.version
  arch := request.arch
  platform := request.os
  artifact := artifact.path
  package := package
  smokeTests := verified.outcomes

/-- How a release ended. -/
inductive Released (runner : Runner σ) (may : Refusals) (settings : Settings) (toolchain : Path)
    (host : Host) (arch : Arch) (w w' : World σ) : Except ReleaseError Report → Prop
  | unready {e : SetupError} (same : w.Untouched w') :
    Released runner may settings toolchain host arch w w' (.error (.setup e))
  | collided {request : BuildRequest} {before after : List Path} {path : Path}
    (requested : Requested runner may settings host arch w request)
    (policy : settings.collision = .fail)
    (targets : packageTargets settings request = before ++ path :: after)
    (there : w.machine.files.exists? w.machine.directory path = true)
    (unseen : ∀ other ∈ before, Unseen may w.machine other)
    (same : w.Untouched w') :
    Released runner may settings toolchain host arch w w'
      (.error (.packaging (.packageExists path)))
  | unbuilt {request : BuildRequest} {e : BuildError}
    (requested : Requested runner may settings host arch w request)
    (free : settings.collision = .fail →
      ∀ path ∈ packageTargets settings request, Unseen may w.machine path)
    (built : Built runner toolchain settings request w w' (.error e)) :
    Released runner may settings toolchain host arch w w' (.error (.build e))
  | rejected {request : BuildRequest} {artifact : Artifact} {w₁ : World σ} {e : VerificationError}
    (requested : Requested runner may settings host arch w request)
    (free : settings.collision = .fail →
      ∀ path ∈ packageTargets settings request, Unseen may w.machine path)
    (built : Built runner toolchain settings request w w₁ (.ok artifact))
    (tested : Tested runner artifact w₁ w' (.error e)) :
    Released runner may settings toolchain host arch w w' (.error (.verification e))
  | unpacked {request : BuildRequest} {artifact : Artifact} {verified : VerifiedArtifact}
    {w₁ w₂ : World σ} {e : PackagingError}
    (requested : Requested runner may settings host arch w request)
    (free : settings.collision = .fail →
      ∀ path ∈ packageTargets settings request, Unseen may w.machine path)
    (built : Built runner toolchain settings request w w₁ (.ok artifact))
    (tested : Tested runner artifact w₁ w₂ (.ok verified))
    (packaged : w₂.Runs runner may (package settings verified).run (.error e) w') :
    Released runner may settings toolchain host arch w w' (.error (.packaging e))
  | complete {request : BuildRequest} {artifact : Artifact} {verified : VerifiedArtifact}
    {w₁ w₂ w₃ : World σ} {made : Package}
    (requested : Requested runner may settings host arch w request)
    (free : settings.collision = .fail →
      ∀ path ∈ packageTargets settings request, Unseen may w.machine path)
    (built : Built runner toolchain settings request w w₁ (.ok artifact))
    (tested : Tested runner artifact w₁ w₂ (.ok verified))
    (packaged : w₂.Runs runner may (package settings verified).run (.ok made) w₃)
    (same : w₃.Untouched w') :
    Released runner may settings toolchain host arch w w'
      (.ok (reportOf request artifact verified made))

theorem Built.since {request : BuildRequest} {r : Except BuildError Artifact} {w₀ : World σ}
    (h : Built runner toolchain settings request w w' r) (h₀ : w₀.Untouched w) :
    Built runner toolchain settings request w₀ w' r := by
  cases h with
  | failed called missing => exact .failed (called.since h₀) missing
  | moved called success seen renamed machine idle found =>
    exact .moved (called.since h₀) success seen renamed machine idle found

theorem Built.request_eq {request : BuildRequest} {artifact : Artifact}
    (h : Built runner toolchain settings request w w' (.ok artifact)) :
    artifact.request = request := by
  cases h
  rfl

theorem Tested.artifact_eq {artifact : Artifact} {verified : VerifiedArtifact}
    (h : Tested runner artifact w w' (.ok verified)) : verified.artifact = artifact := by
  cases h
  rfl

/-- A release behind its version: what it does with a request. -/
def releaseRequest (settings : Settings) (toolchain : Path) (request : BuildRequest) :
    Stage ReleaseError Report := do
  Stage.note (.startingRelease request.version request.arch request.os)
  (ensureAvailable settings request).orElse ReleaseError.packaging
  let artifact ← (build toolchain settings request).orElse ReleaseError.build
  let verified ← (verify artifact).orElse ReleaseError.verification
  let package ← (package settings verified).orElse ReleaseError.packaging
  Stage.note (.releaseComplete package.path)
  pure (reportOf request artifact verified package)

theorem release_supported (os : Os) :
    release settings toolchain (.ok os) arch =
      ((resolveVersion settings.versionFile).orElse ReleaseError.setup >>= fun version =>
        releaseRequest settings toolchain ⟨arch, version, os⟩) := by
  rfl

/-- How a release proceeds, stage by stage. -/
inductive Proceeds (runner : Runner σ) (may : Refusals) (settings : Settings) (toolchain : Path)
    (host : Host) (arch : Arch) (w w' : World σ) : Except ReleaseError Report → Prop
  | unsupported {name : String} (unknown : host = .error name) (same : w' = w) :
    Proceeds runner may settings toolchain host arch w w'
      (.error (.setup (.unsupportedPlatform name)))
  | unversioned {e : SetupError}
    (version : w.Runs runner may (resolveVersion settings.versionFile).run (.error e) w') :
    Proceeds runner may settings toolchain host arch w w' (.error (.setup e))
  | unavailable {request : BuildRequest} {e : PackagingError} {w₁ : World σ}
    (requested : Requested runner may settings host arch w request) (before : w.Untouched w₁)
    (available : w₁.Runs runner may (ensureAvailable settings request).run (.error e) w') :
    Proceeds runner may settings toolchain host arch w w' (.error (.packaging e))
  | unbuilt {request : BuildRequest} {e : BuildError} {w₁ w₂ : World σ}
    (requested : Requested runner may settings host arch w request) (before : w.Untouched w₁)
    (available : w₁.Runs runner may (ensureAvailable settings request).run (.ok ()) w₂)
    (builds : w₂.Runs runner may (build toolchain settings request).run (.error e) w') :
    Proceeds runner may settings toolchain host arch w w' (.error (.build e))
  | rejected {request : BuildRequest} {artifact : Artifact} {e : VerificationError}
    {w₁ w₂ w₃ : World σ}
    (requested : Requested runner may settings host arch w request) (before : w.Untouched w₁)
    (available : w₁.Runs runner may (ensureAvailable settings request).run (.ok ()) w₂)
    (builds : w₂.Runs runner may (build toolchain settings request).run (.ok artifact) w₃)
    (verifies : w₃.Runs runner may (verify artifact).run (.error e) w') :
    Proceeds runner may settings toolchain host arch w w' (.error (.verification e))
  | unpacked {request : BuildRequest} {artifact : Artifact} {verified : VerifiedArtifact}
    {e : PackagingError} {w₁ w₂ w₃ w₄ : World σ}
    (requested : Requested runner may settings host arch w request) (before : w.Untouched w₁)
    (available : w₁.Runs runner may (ensureAvailable settings request).run (.ok ()) w₂)
    (builds : w₂.Runs runner may (build toolchain settings request).run (.ok artifact) w₃)
    (verifies : w₃.Runs runner may (verify artifact).run (.ok verified) w₄)
    (packages : w₄.Runs runner may (package settings verified).run (.error e) w') :
    Proceeds runner may settings toolchain host arch w w' (.error (.packaging e))
  | complete {request : BuildRequest} {artifact : Artifact} {verified : VerifiedArtifact}
    {made : Package} {w₁ w₂ w₃ w₄ w₅ : World σ}
    (requested : Requested runner may settings host arch w request) (before : w.Untouched w₁)
    (available : w₁.Runs runner may (ensureAvailable settings request).run (.ok ()) w₂)
    (builds : w₂.Runs runner may (build toolchain settings request).run (.ok artifact) w₃)
    (verifies : w₃.Runs runner may (verify artifact).run (.ok verified) w₄)
    (packages : w₄.Runs runner may (package settings verified).run (.ok made) w₅)
    (same : w₅.Untouched w') :
    Proceeds runner may settings toolchain host arch w w'
      (.ok (reportOf request artifact verified made))

theorem runs_releaseRequest {request : BuildRequest} {r : Except ReleaseError Report}
    {w₀ : World σ} (hrequest : Requested runner may settings host arch w₀ request)
    (h₀ : w₀.Untouched w)
    (h : w.Runs runner may (releaseRequest settings toolchain request).run r w') :
    Proceeds runner may settings toolchain host arch w₀ w' r := by
  rw [releaseRequest, runs_note_bind, runs_stage_bind] at h
  let told := Event.startingRelease request.version request.arch request.os
  have hbefore : w₀.Untouched { w with messages := .event told :: w.messages } :=
    h₀.trans ⟨rfl, rfl, rfl⟩
  rcases h with ⟨u, w₂, hfree, h⟩ | ⟨e, hfree, rfl⟩
  · rw [runs_orElse_ok] at hfree
    rw [runs_stage_bind] at h
    rcases h with ⟨artifact, w₃, hbuild, h⟩ | ⟨e, hbuild, rfl⟩
    · rw [runs_orElse_ok] at hbuild
      rw [runs_stage_bind] at h
      rcases h with ⟨verified, w₄, hverify, h⟩ | ⟨e, hverify, rfl⟩
      · rw [runs_orElse_ok] at hverify
        rw [runs_stage_bind] at h
        rcases h with ⟨made, w₅, hpackage, h⟩ | ⟨e, hpackage, rfl⟩
        · rw [runs_orElse_ok] at hpackage
          rw [runs_note_bind] at h
          obtain ⟨rfl, rfl⟩ := h
          exact .complete hrequest hbefore hfree hbuild hverify hpackage ⟨rfl, rfl, rfl⟩
        · obtain ⟨e', rfl, hfailed⟩ := runs_orElse_error.mp hpackage
          exact .unpacked hrequest hbefore hfree hbuild hverify hfailed
      · obtain ⟨e', rfl, hfailed⟩ := runs_orElse_error.mp hverify
        exact .rejected hrequest hbefore hfree hbuild hfailed
    · obtain ⟨e', rfl, hfailed⟩ := runs_orElse_error.mp hbuild
      exact .unbuilt hrequest hbefore hfree hfailed
  · obtain ⟨e', rfl, hfailed⟩ := runs_orElse_error.mp hfree
    exact .unavailable hrequest hbefore hfailed

theorem runs_release_cases {r : Except ReleaseError Report}
    (h : w.Runs runner may (release settings toolchain host arch).run r w') :
    Proceeds runner may settings toolchain host arch w w' r := by
  cases host with
  | error name =>
    obtain ⟨rfl, rfl⟩ := h
    exact .unsupported rfl rfl
  | ok os =>
    rw [release_supported, runs_stage_bind] at h
    rcases h with ⟨version, w₁, hversion, h⟩ | ⟨e, hversion, rfl⟩
    · rw [runs_orElse_ok] at hversion
      exact runs_releaseRequest ⟨rfl, rfl, w₁, hversion⟩
        (hversion.untouched (resolveVersion_only _)) h
    · obtain ⟨e', rfl, hfailed⟩ := runs_orElse_error.mp hversion
      exact .unversioned hfailed

theorem unseen_of_available {request : BuildRequest} {w₁ w₂ : World σ} (hbefore : w.Untouched w₁)
    (h : w₁.Runs runner may (ensureAvailable settings request).run (.ok ()) w₂) :
    w.Untouched w₂ ∧ (settings.collision = .fail →
      ∀ path ∈ packageTargets settings request, Unseen may w.machine path) := by
  obtain ⟨huntouched, ⟨-, hall⟩ | ⟨_, _, _, hr, -⟩⟩ := runs_ensureAvailable h
  · exact ⟨hbefore.trans huntouched, by rwa [hbefore.1] at hall⟩
  · simp at hr

/-- Every run of a release ends in one of the ways of `Released`. -/
theorem runs_release {r : Except ReleaseError Report}
    (h : w.Runs runner may (release settings toolchain host arch).run r w') :
    Released runner may settings toolchain host arch w w' r := by
  cases runs_release_cases h with
  | unsupported unknown same => exact .unready (by rw [same]; exact .refl _)
  | unversioned version => exact .unready (version.untouched (resolveVersion_only _))
  | unavailable requested before available =>
    obtain ⟨huntouched, ⟨hr, -⟩ | ⟨_, path, _, hr, hpolicy, htargets, hthere, hunseen⟩⟩ :=
      runs_ensureAvailable available
    · simp at hr
    obtain rfl := Except.error.inj hr
    rw [before.1] at hthere hunseen
    exact .collided requested hpolicy htargets hthere hunseen (before.trans huntouched)
  | unbuilt requested before available builds =>
    obtain ⟨hsame, hfree⟩ := unseen_of_available before available
    exact .unbuilt requested hfree ((runs_build builds).since hsame)
  | rejected requested before available builds verifies =>
    obtain ⟨hsame, hfree⟩ := unseen_of_available before available
    exact .rejected requested hfree ((runs_build builds).since hsame) (runs_verify verifies)
  | unpacked requested before available builds verifies packages =>
    obtain ⟨hsame, hfree⟩ := unseen_of_available before available
    exact .unpacked requested hfree ((runs_build builds).since hsame) (runs_verify verifies)
      packages
  | complete requested before available builds verifies packages same =>
    obtain ⟨hsame, hfree⟩ := unseen_of_available before available
    exact .complete requested hfree ((runs_build builds).since hsame) (runs_verify verifies)
      packages same

end Slipway
