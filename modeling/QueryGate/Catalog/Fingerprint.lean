import QueryGate.Catalog.Codec
import QueryGate.Json.Printer

/-!
A short mark of a catalog's content that does not depend on the order of its tables: tables are
sorted by name, written compactly, and hashed by UTF-16 unit.
-/

namespace QueryGate

/-- The UTF-16 units of a character: one, or a pair of surrogates. -/
def utf16Units (c : Char) : List UInt16 :=
  let n := c.toNat
  if n < 0x10000 then [n.toUInt16]
  else [(0xD800 + (n - 0x10000) / 0x400).toUInt16, (0xDC00 + (n - 0x10000) % 0x400).toUInt16]

/-- One step of the hash: times 31, plus the unit, in 32 bits. -/
def hashStep (h : UInt32) (u : UInt16) : UInt32 := h * 31 + u.toUInt32

def hash32 (cs : List Char) : UInt32 := (cs.flatMap utf16Units).foldl hashStep 0

/-- Eight hexadecimal digits. -/
def hex8 (n : UInt32) : String :=
  let ds := Nat.toDigits 16 n.toNat
  String.ofList (List.replicate (8 - ds.length) '0' ++ ds)

def checksum (text : String) : String := hex8 (hash32 text.toList)

namespace Catalog

/-- The tables in the order of their names. -/
def sorted (c : Catalog) : List (String × Table) :=
  c.entries.mergeSort fun a b => decide (a.1 ≤ b.1)

def canonical (c : Catalog) : String :=
  (Json.object (c.sorted.map fun e => (e.1, e.2.toJson))).compact

def fingerprint (c : Catalog) : String := checksum c.canonical

end Catalog

end QueryGate
