import QueryGate.Proofs.Codec
import QueryGate.Proofs.NormalForms

/-!
Snapshots come back from their documents, once their tables are in normal form. What is read is
normalized again, and this changes nothing when the names of the tables are fixed.
-/

namespace QueryGate

namespace Snapshot

/-- A snapshot whose tables are in normal form and whose checksum is theirs. -/
structure Sound (s : Snapshot) : Prop where
  normal : s.tables.normalize = s.tables
  checksum : s.checksum = s.tables.fingerprint

lemma sound_take {tables : Catalog} (h : tables.normalize.HasFixedNames) (name : String)
    (dialect? : Option String) (now : Timestamp) : (take name dialect? tables now).Sound :=
  ⟨Catalog.normalize_normalize h, rfl⟩

lemma Sound.restore {s : Snapshot} (hs : s.Sound) : Snapshot.restore s.metadata s.tables = s := by
  obtain ⟨name, dialect?, tables, checksum, updated⟩ := s
  obtain ⟨hnormal, hchecksum⟩ := hs
  simp only at hnormal hchecksum
  simp [Snapshot.restore, take, metadata, hnormal, hchecksum]

/-- What is read from a document is stored metadata and tables, put together again. -/
lemma exists_restore_of_ofDocument {text : String} {s : Snapshot} (h : ofDocument text = .ok s) :
    ∃ (m : Metadata) (tables : Catalog), s = Snapshot.restore m tables := by
  rw [ofDocument] at h
  rcases hparts : partsOfDocument text with e | ⟨m, tables⟩
  · rw [hparts] at h
    cases h
  · rw [hparts] at h
    exact ⟨m, tables, (Except.ok.inj h).symm⟩

/-- The checksum of what is read is that of its tables, whatever the document says. -/
lemma checksum_of_ofDocument {text : String} {s : Snapshot} (h : ofDocument text = .ok s) :
    s.checksum = s.tables.fingerprint := by
  obtain ⟨m, tables, rfl⟩ := exists_restore_of_ofDocument h
  rfl

lemma ofDocument_toDocument (s : Snapshot) :
    ofDocument s.toDocument = .ok (Snapshot.restore s.metadata s.tables) := by
  rw [ofDocument, toDocument, partsOfDocument_pretty]
  rfl

/-- **A snapshot comes back from its document.** -/
theorem Sound.ofDocument_toDocument {s : Snapshot} (hs : s.Sound) :
    ofDocument s.toDocument = .ok s := by
  rw [Snapshot.ofDocument_toDocument, hs.restore]

end Snapshot

end QueryGate
