import ManagedAgent.Digest.Sha256
import ManagedAgent.Message.Config
import ManagedAgent.Wire.Text

/-!
# Content hashes of configurations

`ConfigMap.canonical` writes a map as bytes: for each file in name order its name, content type and
body, each after its length in eight bytes. `ConfigMap.digest` is the SHA-256 digest of that.
-/

set_option autoImplicit false

namespace ManagedAgent

/-- Bytes after their length, which takes eight bytes. -/
def lengthPrefixed (b : Bytes) : Bytes := Sha256.bigEndian 8 b.length ++ b

namespace ConfigMap

def canonicalFile (file : String × ConfigFile) : Bytes :=
  lengthPrefixed (Wire.utf8 file.1) ++ lengthPrefixed (Wire.utf8 file.2.contentType)
    ++ lengthPrefixed file.2.body

/-- The bytes that stand for a map. -/
def canonical (m : ConfigMap) : Bytes := m.files.entries.flatMap canonicalFile

def digest (m : ConfigMap) : Bytes := Sha256.digest m.canonical

end ConfigMap

/-- The configuration with the hash of its content. -/
def EffectiveConfig.of (config : ConfigMap) : EffectiveConfig := ⟨config, config.digest⟩

/-- The same configuration, whatever hash came with it. -/
def EffectiveConfig.rehash (c : EffectiveConfig) : EffectiveConfig := .of c.config

/-- An offer with the hash of its content. -/
def RemoteConfig.of (config : ConfigMap) : RemoteConfig := ⟨config, config.digest⟩

/-- An offer without a hash gets the hash of its content. -/
def RemoteConfig.withHash (c : RemoteConfig) : RemoteConfig :=
  if c.hash.isEmpty then .of c.config else c

end ManagedAgent
