import ReplayRegistry.Digest.Sha1

/-!
# Registry keys

A registry key identifies an entry of the registry and is the key under which the log keeps its
latest record. It is the SHA-1 digest of the tenant's name followed by the resource's name, in
lowercase hexadecimal. Nothing stands between the two names, so two pairs with the same
concatenation share a key.
-/

namespace ReplayRegistry

/-- The identity of an entry. Keys read back from the log may be any text. -/
abbrev RegistryKey := String

/-- The key of the resource `name` of a tenant. -/
def deriveKey (tenant name : String) : RegistryKey :=
  (Sha1.digest (Bytes.ofText tenant ++ Bytes.ofText name)).hex

end ReplayRegistry
