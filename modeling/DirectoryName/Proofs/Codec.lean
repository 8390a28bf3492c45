import DirectoryName.Proofs.Shape

namespace DirectoryName

/-! The codec of names.

What a codec reads is said of each combinator, and of the codecs that are put together with them.
A name is read from the same values as by the shape check and written in the same form. The
check passes over what stands behind a triple and the codec does not; that is all that tells
them apart, since both hide the bookkeeping bits and neither lets an empty component in. -/

namespace Json

/-- The elements of an array; other values have none. -/
def items : Json → List Json
  | .array items => items
  | _ => []

/-- Nothing is missing from a triple, and nothing stands behind it. -/
def HasExactTriples (value : Json) : Prop :=
  ∀ rdn ∈ value.items, ∀ triple ∈ rdn.items, triple.items.length = 3

end Json

theorem mapM_eq_some_iff {α β : Type} (read : α → Option β) (items : List α) (values : List β) :
    items.mapM read = some values ↔
      List.Forall₂ (fun item value => read item = some value) items values := by
  induction items generalizing values with
  | nil =>
      rw [List.mapM_nil, List.forall₂_nil_left_iff]
      exact Option.some_inj.trans eq_comm
  | cons item items ih =>
      simp only [List.mapM_cons, Option.bind_eq_bind, Option.bind_eq_some_iff,
        List.forall₂_cons_left_iff, ih]
      constructor
      · rintro ⟨first, firstRead, rest, restRead, same⟩
        cases same
        exact ⟨first, rest, firstRead, restRead, rfl⟩
      · rintro ⟨first, rest, firstRead, restRead, rfl⟩
        exact ⟨first, firstRead, rest, restRead, rfl⟩

theorem Rdn.ofAvas?_eq_some_iff (avas : List Ava) (rdn : Rdn) :
    ofAvas? avas = some rdn ↔ rdn.avas = avas := by
  obtain ⟨first, others⟩ := rdn
  cases avas with
  | nil => simp [ofAvas?, Rdn.avas]
  | cons next rest => simp [ofAvas?, Rdn.avas, eq_comm]

namespace Codec

variable {α β γ : Type}

theorem via_decode?_eq_some_iff (codec : Codec α) (represent : β → α)
    (restore? : α → Option β) (value : Json) (decoded : β) :
    (codec.via represent restore?).decode? value = some decoded ↔
      ∃ raw, codec.decode? value = some raw ∧ restore? raw = some decoded :=
  Option.bind_eq_some_iff

theorem text_decode?_eq_some_iff (value : Json) (decoded : String) :
    text.decode? value = some decoded ↔ value = .string decoded := by
  cases value with
  | scalar scalar => cases scalar <;> simp [text, Json.string]
  | array items => simp [text, Json.string]
  | object members => simp [text, Json.string]

theorem word_decode?_eq_some_iff (value : Json) (decoded : UInt32) :
    word.decode? value = some decoded ↔
      ∃ bits < 2 ^ 32, value = .natural bits ∧ decoded = UInt32.ofNat bits := by
  constructor
  · intro done
    match value, done with
    | .scalar (.natural bits), done =>
        obtain ⟨below, same⟩ := Option.ite_none_right_eq_some.mp done
        cases same
        exact ⟨bits, below, rfl, rfl⟩
  · rintro ⟨bits, below, rfl, rfl⟩
    exact if_pos below

theorem triple_decode?_eq_some_iff (first : Codec α) (second : Codec β) (third : Codec γ)
    (value : Json) (decoded : α × β × γ) :
    (triple first second third).decode? value = some decoded ↔
      ∃ a b c, value = .array [a, b, c] ∧ first.decode? a = some decoded.1 ∧
        second.decode? b = some decoded.2.1 ∧ third.decode? c = some decoded.2.2 := by
  constructor
  · intro done
    match value, done with
    | .array [a, b, c], done =>
        simp only [triple, Option.bind_eq_bind, Option.bind_eq_some_iff] at done
        obtain ⟨left, leftRead, middle, middleRead, right, rightRead, same⟩ := done
        cases same
        exact ⟨a, b, c, rfl, leftRead, middleRead, rightRead⟩
  · rintro ⟨a, b, c, rfl, leftRead, middleRead, rightRead⟩
    simp only [triple, leftRead, middleRead, rightRead]
    rfl

theorem list_decode?_eq_some_iff {item : Codec α} {fits : Json → α → Prop}
    (reads : ∀ value decoded, item.decode? value = some decoded ↔ fits value decoded)
    (value : Json) (decoded : List α) :
    (list item).decode? value = some decoded ↔
      ∃ items, value = .array items ∧ List.Forall₂ fits items decoded := by
  cases value with
  | scalar value => simp [list]
  | object members => simp [list]
  | array items =>
      have same : (list item).decode? (.array items) = items.mapM item.decode? := rfl
      rw [same, mapM_eq_some_iff]
      simp only [reads, Json.array.injEq, exists_eq_left']

end Codec

theorem Ava.decode?_eq_some_iff (value : Json) (ava : Ava) :
    codec.decode? value = some ava ↔ value.items.length = 3 ∧ Shape.IsAva value ava := by
  rw [codec, Codec.via_decode?_eq_some_iff]
  constructor
  · rintro ⟨triple, read, same⟩
    cases same
    obtain ⟨_, _, _, rfl, type, text, word⟩ :=
      (Codec.triple_decode?_eq_some_iff _ _ _ _ _).mp read
    rw [Codec.text_decode?_eq_some_iff] at type text
    obtain ⟨bits, below, flags, same⟩ := (Codec.word_decode?_eq_some_iff _ _).mp word
    subst type text flags
    refine ⟨rfl, bits, [], rfl, below, ?_⟩
    rw [← same]
    rfl
  · rintro ⟨length, bits, extra, rfl, below, flags⟩
    obtain rfl : extra = [] := by simpa [Json.items] using length
    refine ⟨(ava.type, ava.value, UInt32.ofNat bits), ?_, ?_⟩
    · rw [Codec.triple_decode?_eq_some_iff]
      exact ⟨_, _, _, rfl, (Codec.text_decode?_eq_some_iff _ _).mpr rfl,
        (Codec.text_decode?_eq_some_iff _ _).mpr rfl,
        (Codec.word_decode?_eq_some_iff _ _).mpr ⟨bits, below, rfl, rfl⟩⟩
    · obtain ⟨type, value, _⟩ := ava
      cases flags
      rfl

theorem Rdn.decode?_eq_some_iff (value : Json) (rdn : Rdn) :
    codec.decode? value = some rdn ↔
      (∀ triple ∈ value.items, triple.items.length = 3) ∧ Shape.IsRdn value rdn := by
  simp only [codec, Codec.via_decode?_eq_some_iff,
    Codec.list_decode?_eq_some_iff Ava.decode?_eq_some_iff, List.forall₂_and_left,
    Rdn.ofAvas?_eq_some_iff]
  constructor
  · rintro ⟨_, ⟨items, rfl, exact, avas⟩, rfl⟩
    exact ⟨exact, items, rfl, avas⟩
  · rintro ⟨exact, items, rfl, avas⟩
    exact ⟨_, ⟨items, rfl, exact, avas⟩, rfl⟩

namespace Dn

theorem decode?_eq_some_iff (value : Json) (name : Dn) :
    codec.decode? value = some name ↔ value.HasExactTriples ∧ Shape.IsName value name := by
  simp only [codec, Codec.via_decode?_eq_some_iff,
    Codec.list_decode?_eq_some_iff Rdn.decode?_eq_some_iff, List.forall₂_and_left]
  constructor
  · rintro ⟨_, ⟨items, rfl, exact, rdns⟩, same⟩
    cases same
    exact ⟨exact, items, rfl, rdns⟩
  · rintro ⟨exact, items, rfl, rdns⟩
    exact ⟨_, ⟨items, rfl, exact, rdns⟩, rfl⟩

theorem decode_isPublic {value : Json} {name : Dn} (done : codec.decode? value = some name) :
    name.IsPublic :=
  ((decode?_eq_some_iff value name).mp done).2.isPublic

theorem toJson_hasExactTriples (name : Dn) : name.toJson.HasExactTriples := by
  intro rdn member triple inside
  obtain ⟨avas, _, rfl⟩ := List.mem_map.mp member
  obtain ⟨_, _, rfl⟩ := List.mem_map.mp inside
  rfl

/-- The codec and the shape check take the same values for the same names, but that the codec
wants nothing behind a triple, and they write a name alike. -/
theorem codec_shape_agree :
    (∀ (value : Json) (name : Dn),
        codec.decode? value = some name ↔ ofJson value = .ok name ∧ value.HasExactTriples) ∧
      ∀ name : Dn, codec.encode name = name.toJson ∧
        codec.decode? (codec.encode name) = some (name.mapBits (· &&& ~~~0x30)) := by
  have agree (value : Json) (name : Dn) :
      codec.decode? value = some name ↔ ofJson value = .ok name ∧ value.HasExactTriples := by
    rw [decode?_eq_some_iff, ofJson_eq_ok_iff, and_comm]
  refine ⟨agree, fun name => ⟨name.codec_encode, ?_⟩⟩
  rw [codec_encode, agree]
  exact ⟨name.ofJson_toJson_eq_mapBits, name.toJson_hasExactTriples⟩

/-- A fourth element is passed over by the shape check and refused by the codec. -/
example :
    let value : Json :=
      .array [.array [.array [.string "cn", .string "Jo", .natural 0x31, .array []]]]
    ofJson value = .ok ⟨[⟨.string "cn" "Jo", []⟩]⟩ ∧ codec.decode? value = none :=
  ⟨rfl, rfl⟩

end Dn

end DirectoryName
