import DirectoryName.Proofs.Reading.Type

namespace DirectoryName

/-! Attribute types are the descriptors and the dotted numbers of the grammar. -/

theorem AttributeType.isDescriptor_iff (octets : List UInt8) :
    isDescriptor octets = true ↔ IsDescriptor octets := by
  cases octets with
  | nil => simp [isDescriptor, IsDescriptor]
  | cons first rest =>
      simp only [isDescriptor, IsDescriptor, Bool.and_eq_true, List.all_eq_true]
      constructor
      · intro descriptor
        exact ⟨first, rest, rfl, descriptor.1, descriptor.2⟩
      · intro descriptor
        obtain ⟨_, _, same, letter, keys⟩ := descriptor
        cases same
        exact ⟨letter, keys⟩

theorem AttributeType.isNumericOid_iff (octets : List UInt8) :
    isNumericOid octets = true ↔ IsDottedNumber octets := by
  have areArcs : ∀ arcs : List (List UInt8),
      (arcs.all fun arc => !arc.isEmpty && arc.all Octet.isDigit) = true ↔ AreArcs arcs := by
    intro arcs
    simp [AreArcs]
  rw [isNumericOid, Bool.and_eq_true, decide_eq_true_eq, areArcs]
  constructor
  · intro number
    exact ⟨octets.splitOn Octet.dot, (List.intercalate_splitOn _).symm, number⟩
  · intro number
    obtain ⟨arcs, rfl, many, are⟩ := number
    have noDot : ∀ arc ∈ arcs, Octet.dot ∉ arc := by
      intro arc member dot
      exact absurd ((are arc member).2 _ dot) (by decide)
    have nonempty : arcs ≠ [] := by
      intro none
      simp [none] at many
    rw [List.splitOn_intercalate _ noDot nonempty]
    exact ⟨many, are⟩

theorem isAttributeType_iff (type : String) :
    isAttributeType type = true ↔
      IsDescriptor (octetsOf type) ∨ IsDottedNumber (octetsOf type) := by
  rw [isAttributeType, Bool.or_eq_true, AttributeType.isDescriptor_iff,
    AttributeType.isNumericOid_iff]

theorem TypeSpelling.isAttributeType {dialect : Dialect} {type : String} {text : List UInt8}
    (spelled : TypeSpelling dialect type text) : isAttributeType type = true := by
  rw [isAttributeType_iff]
  cases spelled with
  | descriptor descriptor => exact .inl descriptor
  | number number | oid _ _ number => exact .inr number

theorem key_or_dot_of_typed {type : String} (typed : isAttributeType type = true) :
    ∀ octet ∈ octetsOf type, Octet.isKeyOctet octet = true ∨ octet = Octet.dot := by
  intro octet member
  rcases (isAttributeType_iff type).mp typed with ⟨first, rest, same, letter, keys⟩ |
    ⟨arcs, same, _, are⟩
  · rw [same, List.mem_cons] at member
    rcases member with rfl | member
    · exact .inl ((Octet.isKeyOctet_iff _).mpr (.inl letter))
    · exact .inl (keys octet member)
  · rw [same] at member
    rcases AreArcs.mem_intercalate are octet member with rfl | digit
    · exact .inr rfl
    · exact .inl ((Octet.isKeyOctet_iff _).mpr (.inr (.inl digit)))

/-- A type is spelled by its own octets. -/
theorem typeSpelling_self {dialect : Dialect} {type : String}
    (valid : isAttributeType type = true) : TypeSpelling dialect type (octetsOf type) := by
  rcases (isAttributeType_iff type).mp valid with descriptor | number
  · exact .descriptor descriptor
  · exact .number number

end DirectoryName
