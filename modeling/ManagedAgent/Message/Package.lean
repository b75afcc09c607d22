import ManagedAgent.Message.Attribute
import ManagedAgent.NameMap

/-!
# Packages: what the server has, and what the agent made of it
-/

set_option autoImplicit false

namespace ManagedAgent

inductive PackageType where
  | topLevel
  | addon
  deriving DecidableEq, Inhabited

structure DownloadableFile where
  url : String
  contentHash : Bytes := []
  signature : Bytes := []
  deriving DecidableEq, Inhabited

structure PackageAvailable where
  type : PackageType := .topLevel
  version : String := ""
  file : Option DownloadableFile := none
  hash : Bytes := []
  deriving DecidableEq, Inhabited

/-- All packages that the server offers; the hash stands for the whole offer. -/
structure PackagesAvailable where
  packages : NameMap PackageAvailable := .empty
  allHash : Bytes := []
  deriving DecidableEq, Inhabited

inductive PackageState where
  | installPending
  | installing
  | installed
  | installFailed
  deriving DecidableEq, Inhabited

/-- Where the agent stands with one package. -/
structure PackageStatus where
  name : String
  agentVersion : String := ""
  agentHash : Bytes := []
  offeredVersion : String := ""
  offeredHash : Bytes := []
  state : PackageState := .installPending
  error : String := ""
  deriving DecidableEq, Inhabited

/-- Where the agent stands with all packages, and the offer that it has acknowledged. -/
structure PackageStatuses where
  packages : NameMap PackageStatus := .empty
  allHash : Bytes := []
  error : String := ""
  deriving DecidableEq, Inhabited

end ManagedAgent
