-- SUMMARY: What a source of the Gateway's metadata answers to an authorization lookup.
import Hooshix.Lib.Table
import Hooshix.Contract.Resume

/-! # Metadata

`MetadataSource.Authorization`, whose implementations are the snapshot and the live source. Times are
nanoseconds.
-/

namespace Hooshix.Gateway

open Contract

abbrev errMetadataUnavailable : GoError := .sentinel .metadataUnavailable

abbrev errMetadataStale : GoError := .sentinel .metadataStale

abbrev errMetadataNotFound : GoError := .sentinel .metadataNotFound

def metadataTemporarilyUnavailable (err : GoError) : Bool :=
  err.is .metadataUnavailable || err.is .metadataStale

/-- A source of authority: `Active` says which records are in force, and only those are returned. -/
structure MetadataSource where
  authorization : (authorizationID deviceID tokenID : String) → (at_ : Int) →
    Except GoError DeviceSessionAuthorization
  Active : DeviceSessionAuthorization → Int → Prop
  active : ∀ {authorizationID deviceID tokenID at_ record},
    authorization authorizationID deviceID tokenID at_ = .ok record → Active record at_

end Hooshix.Gateway
