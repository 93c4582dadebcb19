/-!
# Platforms

The operating systems that packages are made on and the processor architectures they are made
for, with the names they carry in files and commands.
-/

namespace Slipway

/-! ## Architectures -/

inductive Arch
  | amd64
  | arm64
  deriving DecidableEq

namespace Arch

/-- Every architecture, in the order shown to users. The first is the default. -/
def all : List Arch := [.amd64, .arm64]

def name : Arch → String
  | .amd64 => "amd64"
  | .arm64 => "arm64"

/-- The name that the build toolchain knows the architecture by. -/
def toolchainName : Arch → String
  | .amd64 => "x64"
  | .arm64 => "arm64"

def ofName? (text : String) : Option Arch :=
  all.find? (fun a => a.name = text)

end Arch

/-! ## Operating systems -/

inductive Os
  | linux
  | darwin
  | windows
  deriving DecidableEq

namespace Os

/-- The operating system of a compilation target. -/
def ofTarget? : String → Option Os
  | "linux" => some .linux
  | "macos" => some .darwin
  | "windows" => some .windows
  | _ => none

def name : Os → String
  | .linux => "linux"
  | .darwin => "darwin"
  | .windows => "windows"

/-- The ending of the names of executables. -/
def executableSuffix : Os → String
  | .windows => ".exe"
  | .linux => ""
  | .darwin => ""

def executable (os : Os) (stem : String) : String := stem ++ os.executableSuffix

end Os

/-! ## Platforms and their files -/

structure Platform where
  os : Os
  arch : Arch
  deriving DecidableEq

namespace Platform

def qualifier (p : Platform) : String := p.os.name ++ "_" ++ p.arch.name

/-- The file name of a product's package for this platform. -/
def packageName (p : Platform) (product : String) : String :=
  product ++ "_" ++ p.qualifier ++ ".tar.gz"

end Platform

/-- The file name of the checksum that stands next to a package. -/
def checksumName (packageName : String) : String := packageName ++ ".sha256"

end Slipway
