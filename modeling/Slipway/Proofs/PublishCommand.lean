import Mathlib.Data.List.Infix
import Slipway.Proofs.Paths
import Slipway.Release.Build

/-!
# What the publish command says

Build directory, architecture and version each stand in an argument of their own behind a flag.
Looking a flag up finds what was meant, although the paths and the version may be any texts, unless
the project's directory itself begins like a flag. Different requests have different commands.
-/

namespace Slipway

variable {toolchain toolchain' : Path} {settings settings' : Settings}
  {request request' : BuildRequest} {flag text value : String}

/-! ## Looking up a flag -/

theorem afterBeginning?_eq_some :
    afterBeginning? flag text = some value ↔ flag ++ value = text := by
  rw [afterBeginning?, Option.map_eq_some_iff]
  constructor
  · rintro ⟨chars, hchars, rfl⟩
    apply String.toList_injective
    rw [String.toList_append, String.toList_ofList]
    exact List.isPrefixOf?_eq_some_iff_append_eq.mp hchars
  · rintro rfl
    refine ⟨value.toList, List.isPrefixOf?_eq_some_iff_append_eq.mpr ?_, String.ofList_toList⟩
    exact String.toList_append.symm

theorem afterBeginning?_eq_none :
    afterBeginning? flag text = none ↔ ¬ flag.toList <+: text.toList := by
  rw [← Option.not_isSome_iff_eq_none, afterBeginning?, Option.isSome_map,
    List.isSome_isPrefixOf?_eq_isPrefixOf, List.isPrefixOf_iff_prefix]

theorem argValue?_of_first {i : Invocation} (before : List String) {after : List String}
    (h : i.args = before ++ (flag ++ value) :: after)
    (hbefore : ∀ arg ∈ before, ¬ flag.toList <+: arg.toList) : i.argValue? flag = some value := by
  have hnone : before.findSome? (afterBeginning? flag) = none :=
    List.findSome?_eq_none_iff.mpr fun arg harg => afterBeginning?_eq_none.mpr (hbefore arg harg)
  rw [Invocation.argValue?, h, List.findSome?_append, hnone, Option.none_or, List.findSome?_cons,
    afterBeginning?_eq_some.mpr rfl]

/-- Flags that differ before one of them ends differ whatever follows. -/
theorem not_prefix_append {other : String} (value : String)
    (h : ¬ flag.toList <+: other.toList ∧ ¬ other.toList <+: flag.toList) :
    ¬ flag.toList <+: (other ++ value).toList := by
  rw [String.toList_append]
  intro hflag
  rcases List.prefix_or_prefix_of_prefix hflag (List.prefix_append _ _) with hpre | hpre
  · exact h.1 hpre
  · exact h.2 hpre

/-! ## The command -/

/-- The flags with which a request is passed on. -/
def publishFlags : List String := [outputFlag, archFlag, versionFlag]

/-- The command says what is requested, each part in one argument that its flag finds. -/
structure Conveys (command : Invocation) (settings : Settings) (request : BuildRequest) : Prop where
  output : command.argValue? outputFlag = some settings.buildDir.text
  arch : command.argValue? archFlag = some request.arch.toolchainName
  version : command.argValue? versionFlag = some request.version
  whole : outputFlag ++ settings.buildDir.text ∈ command.args ∧
    archFlag ++ request.arch.toolchainName ∈ command.args ∧
    versionFlag ++ request.version ∈ command.args

theorem conveys_publishInvocation (toolchain : Path) (request : BuildRequest)
    (h : ∀ flag ∈ publishFlags, ¬ startsWith settings.projectDir.text flag) :
    Conveys (publishInvocation toolchain settings request) settings request := by
  have hproject : ∀ flag ∈ publishFlags, ¬ flag.toList <+: settings.projectDir.text.toList := by
    intro flag hflag hpre
    exact h flag hflag (List.isPrefixOf_iff_prefix.mpr hpre)
  simp only [publishFlags, List.forall_mem_cons] at hproject
  obtain ⟨houtput, harch, hversion, -⟩ := hproject
  refine ⟨argValue?_of_first [_, _, _] rfl ?_,
    argValue?_of_first [_, _, _, _, _, _] rfl ?_,
    argValue?_of_first [_, _, _, _, _, _, _] rfl ?_, ?_⟩
  · simp only [List.forall_mem_cons]
    exact ⟨by decide, houtput, by decide, by simp⟩
  · simp only [List.forall_mem_cons]
    exact ⟨by decide, harch, by decide, not_prefix_append _ (by decide), by decide, by decide,
      by simp⟩
  · simp only [List.forall_mem_cons]
    exact ⟨by decide, hversion, by decide, not_prefix_append _ (by decide), by decide, by decide,
      not_prefix_append _ (by decide), by simp⟩
  · simp [publishInvocation]

theorem toolchainName_inj {arch arch' : Arch} :
    arch.toolchainName = arch'.toolchainName ↔ arch = arch' := by
  cases arch <;> cases arch' <;> decide

theorem Path.text_inj {p q : Path} : p.text = q.text ↔ p = q := by
  constructor
  · intro h
    exact Path.eq_of_toList (congrArg String.toList h)
  · rintro rfl
    rfl

theorem publishInvocation_args_inj :
    (publishInvocation toolchain settings request).args =
        (publishInvocation toolchain' settings' request').args ↔
      settings.projectDir = settings'.projectDir ∧ settings.buildDir = settings'.buildDir ∧
        request.arch = request'.arch ∧ request.version = request'.version := by
  simp [publishInvocation, Path.text_inj, toolchainName_inj]

theorem publishInvocation_inj :
    publishInvocation toolchain settings request =
        publishInvocation toolchain' settings' request' ↔
      toolchain = toolchain' ∧ settings.projectDir = settings'.projectDir ∧
        settings.buildDir = settings'.buildDir ∧ request.arch = request'.arch ∧
        request.version = request'.version := by
  constructor
  · intro h
    exact ⟨congrArg Invocation.program h,
      publishInvocation_args_inj.mp (congrArg Invocation.args h)⟩
  · rintro ⟨rfl, hproject, hbuild, harch, hversion⟩
    simp only [publishInvocation, hproject, hbuild, harch, hversion]

/-- The publish command is unambiguous. As long as the project's directory does not begin like one
of the flags, each flag finds what it stands for, however the paths and the version read. Two
commands are the same only if they come from the same toolchain, directories, architecture and
version. -/
theorem publish_command_unambiguous (toolchain : Path) (settings : Settings)
    (request : BuildRequest)
    (h : ∀ flag ∈ publishFlags, ¬ startsWith settings.projectDir.text flag) :
    Conveys (publishInvocation toolchain settings request) settings request ∧
      (publishInvocation toolchain settings request).args.length = 8 ∧
      (publishInvocation toolchain settings request).input = none ∧
      ∀ (toolchain toolchain' : Path) (settings settings' : Settings)
          (request request' : BuildRequest),
        publishInvocation toolchain settings request =
            publishInvocation toolchain' settings' request' ↔
          toolchain = toolchain' ∧ settings.projectDir = settings'.projectDir ∧
            settings.buildDir = settings'.buildDir ∧ request.arch = request'.arch ∧
            request.version = request'.version :=
  ⟨conveys_publishInvocation toolchain request h, rfl, rfl,
    fun _ _ _ _ _ _ => publishInvocation_inj⟩

/-- A project below a directory that looks like an option, and a version that looks like two. -/
def deceptiveSettings : Settings := Settings.below ⟨"--arch"⟩

def deceptiveRequest : BuildRequest := ⟨.arm64, "--output=/tmp --arch=x64", .linux⟩

theorem deceptive_request_conveyed :
    (∀ flag ∈ publishFlags, ¬ startsWith deceptiveSettings.projectDir.text flag) ∧
      (publishInvocation ⟨"dotnet"⟩ deceptiveSettings deceptiveRequest).argValue? archFlag =
        some "arm64" ∧
      (publishInvocation ⟨"dotnet"⟩ deceptiveSettings deceptiveRequest).argValue? versionFlag =
        some "--output=/tmp --arch=x64" := by
  have h : ∀ flag ∈ publishFlags, ¬ startsWith deceptiveSettings.projectDir.text flag := by
    decide
  obtain ⟨hconveys, -⟩ := publish_command_unambiguous ⟨"dotnet"⟩ deceptiveSettings
    deceptiveRequest h
  exact ⟨h, hconveys.arch, hconveys.version⟩

end Slipway
