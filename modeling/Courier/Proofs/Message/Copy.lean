import Courier.Message
import Courier.Proofs.Text.Utf8
import Courier.Proofs.Wire.Maps

/-!
# Delivered copies

A copy is rebuilt from the encoded body. It holds what the message held, with the properties and
the body frozen and the body read from its start, and it can be copied again. Only a map that does
not fit its encoding has no copy.
-/

namespace Courier

set_option autoImplicit false

namespace Body

/-- The bodies hold the same, whether they can be written and wherever their reading stands. A map
may list its entries in another order. -/
inductive SameContent : Body → Body → Prop
  | empty : SameContent .empty .empty
  | text {b b' : TextBody} (text : b'.text = b.text) : SameContent (.text b) (.text b')
  | bytes {b b' : BytesBody} (data : b'.encode = b.encode) : SameContent (.bytes b) (.bytes b')
  | stream {b b' : StreamBody} (data : b'.encode = b.encode) : SameContent (.stream b) (.stream b')
  | map {b b' : MapBody} (get : ∀ name, b'.get? name = b.get? name)
      (size : b'.entries.size = b.entries.size) : SameContent (.map b) (.map b')
  | object {b b' : ObjectBody} (data : b'.data = b.data) : SameContent (.object b) (.object b')

/-- Nothing of the body has been read yet. -/
def AtStart : Body → Prop
  | .bytes b => ∃ data, b = .reading (.start data)
  | .stream b => ∃ data, b = .reading (.start data) none
  | _ => True

/-- A map that does not fit its encoding. -/
def Unencodable : Body → Prop
  | .map b => Wire.MapOversized b.entries
  | _ => False

/-- The same body, except that a map may list its entries in another order. -/
inductive Reorders : Body → Body → Prop
  | refl (b : Body) : Reorders b b
  | map (b : MapBody) {entries : Table String Value}
      (order : entries.entries.Perm b.entries.entries) : Reorders (.map b) (.map { b with entries })

/-- What a rebuilt body has in common with the one it was rebuilt from, and what it has of its
own. -/
structure CopyOf (b b' : Body) : Prop where
  kind : b'.kind = b.kind
  readOnly : b.kind ≠ .plain → b'.readOnly = true
  atStart : b'.AtStart
  content : b.SameContent b'

namespace SameContent
variable {a b c : Body}

theorem refl (b : Body) : SameContent b b := by
  cases b with
  | empty => exact .empty
  | text b => exact .text rfl
  | bytes b => exact .bytes rfl
  | stream b => exact .stream rfl
  | map b => exact .map (fun _ => rfl) rfl
  | object b => exact .object rfl

theorem trans (first : SameContent a b) (second : SameContent b c) : SameContent a c := by
  cases first with
  | empty => exact second
  | text h => cases second with | text h' => exact .text (h'.trans h)
  | bytes h => cases second with | bytes h' => exact .bytes (h'.trans h)
  | stream h => cases second with | stream h' => exact .stream (h'.trans h)
  | map get size =>
    cases second with
    | map get' size' => exact .map (fun name => (get' name).trans (get name)) (size'.trans size)
  | object h => cases second with | object h' => exact .object (h'.trans h)

theorem kind (same : SameContent a b) : b.kind = a.kind := by
  cases same <;> rfl

/-- Whether a body can be encoded is a matter of its content. -/
theorem unencodable (same : SameContent a b) : b.Unencodable ↔ a.Unencodable := by
  cases same with
  | @map b b' get size =>
    have lookup : ∀ name, b'.entries.get? name = b.entries.get? name := get
    show Wire.MapOversized b'.entries ↔ Wire.MapOversized b.entries
    simp only [Wire.MapOversized, size, lookup]
  | _ => exact Iff.rfl

end SameContent

theorem Reorders.sameContent {b b' : Body} (order : Reorders b b') : SameContent b b' := by
  cases order with
  | refl => exact .refl b
  | map b order => exact .map (Table.get?_eq_of_perm order) order.length_eq

theorem encode_error {b : Body} (unfit : b.Unencodable) :
    ∃ e, b.encode = .error e ∧ e.kind = .format := by
  cases b with
  | map b =>
    obtain ⟨e, failed, kind⟩ := Wire.encodeMap_error unfit
    refine ⟨e, ?_, kind⟩
    rw [encode, MapBody.encode, failed]
    rfl
  | _ => exact unfit.elim

/-- A body that fits its encoding is rebuilt from it. -/
theorem decode_encode {b : Body} (fits : ¬ b.Unencodable) :
    ∃ data b', b.encode = .ok data ∧ decode b.kind data = .ok b' ∧ CopyOf b b' := by
  cases b with
  | empty => exact ⟨none, .empty, rfl, rfl, ⟨rfl, absurd rfl, trivial, .empty⟩⟩
  | text b =>
    refine ⟨b.encode, .text ⟨b.text, true⟩, rfl, ?_, ⟨rfl, fun _ => rfl, trivial, .text rfl⟩⟩
    rcases b with ⟨_ | s, _⟩
    · rfl
    · show (TextBody.decode (some (Text.Utf8.encode s))).map text = _
      rw [TextBody.decode, Text.Utf8.decode_encode]
      rfl
  | bytes b =>
    exact ⟨some b.encode, .bytes (.reading (.start b.encode)), rfl, rfl,
      ⟨rfl, fun _ => rfl, ⟨_, rfl⟩, .bytes rfl⟩⟩
  | stream b =>
    exact ⟨some b.encode, .stream (.reading (.start b.encode) none), rfl, rfl,
      ⟨rfl, fun _ => rfl, ⟨_, rfl⟩, .stream rfl⟩⟩
  | map b =>
    obtain ⟨bytes, written, taken⟩ := Wire.exists_encodeMap fits
    obtain ⟨c, read, -, -⟩ := taken.start []
    rw [List.append_nil] at read
    have decoded : Wire.decodeMap bytes = .ok b.entries := by
      rw [Wire.decodeMap, Wire.Read.runOn, read]
    refine ⟨some bytes, .map ⟨b.entries, true⟩, ?_, ?_,
      ⟨rfl, fun _ => rfl, trivial, .map (fun _ => rfl) rfl⟩⟩
    · rw [encode, MapBody.encode, written]
      rfl
    · show (MapBody.decode (some bytes)).map map = _
      rw [MapBody.decode, decoded]
      rfl
  | object b =>
    exact ⟨b.data, .object ⟨b.data, true⟩, rfl, rfl,
      ⟨rfl, fun _ => rfl, trivial, .object rfl⟩⟩

end Body

namespace Message

/-- What a delivered copy has in common with the message, and what it has of its own. -/
structure CopyOf (m copy : Message) : Prop where
  header : copy.header = m.header
  values : copy.properties.values = m.properties.values
  readOnly : copy.properties.readOnly = true
  body : m.body.CopyOf copy.body

theorem deliveryCopy_error {m : Message} (unfit : m.body.Unencodable) :
    ∃ e, m.deliveryCopy = .error e ∧ e.kind = .format := by
  obtain ⟨e, failed, kind⟩ := Body.encode_error unfit
  refine ⟨e, ?_, kind⟩
  rw [deliveryCopy, failed]
  rfl

theorem exists_deliveryCopy {m : Message} (fits : ¬ m.body.Unencodable) :
    ∃ copy, m.deliveryCopy = .ok copy ∧ CopyOf m copy := by
  obtain ⟨data, body, encoded, decoded, copied⟩ := Body.decode_encode fits
  refine ⟨{ m with properties := { m.properties with readOnly := true }, body }, ?_,
    ⟨rfl, rfl, rfl, copied⟩⟩
  rw [deliveryCopy, encoded]
  show (Body.decode m.body.kind data >>= _) = _
  rw [decoded]
  rfl

theorem deliveryCopy_ok {m copy : Message} (copied : m.deliveryCopy = .ok copy) :
    ¬ m.body.Unencodable ∧ CopyOf m copy := by
  have fits : ¬ m.body.Unencodable := by
    intro unfit
    obtain ⟨e, failed, -⟩ := deliveryCopy_error unfit
    rw [copied] at failed
    cases failed
  obtain ⟨copy', copied', spec⟩ := exists_deliveryCopy fits
  rw [copied] at copied'
  cases copied'
  exact ⟨fits, spec⟩

/-- A copy of a message whose content is that of `m` is as good as a copy of `m`. -/
theorem CopyOf.of_sameContent {m copy : Message} {body : Body} (same : m.body.SameContent body)
    (copied : CopyOf { m with body } copy) : CopyOf m copy where
  header := copied.header
  values := copied.values
  readOnly := copied.readOnly
  body := {
    kind := copied.body.kind.trans same.kind
    readOnly := fun shaped => copied.body.readOnly (by rwa [same.kind])
    atStart := copied.body.atStart
    content := same.trans copied.body.content }

/-- A copy of a copy is as good as the copy. -/
theorem CopyOf.trans {m copy again : Message} (first : CopyOf m copy) (second : CopyOf copy again) :
    CopyOf m again where
  header := second.header.trans first.header
  values := second.values.trans first.values
  readOnly := second.readOnly
  body := {
    kind := second.body.kind.trans first.body.kind
    readOnly := fun shaped => second.body.readOnly (by rwa [first.body.kind])
    atStart := second.body.atStart
    content := first.body.content.trans second.body.content }

/-- Whatever the order in which a map lists its entries, there is a copy of a message unless its
body is a map that does not fit its encoding, and that is a format error. The copy has the kind,
the header, the property values and the content of the message, and so has every copy of it, which
there always is. -/
theorem deliveryCopy_faithful (m : Message) {body : Body} (order : m.body.Reorders body) :
    ((∃ e, ({ m with body } : Message).deliveryCopy = .error e) ↔ m.body.Unencodable) ∧
    (∀ e, ({ m with body } : Message).deliveryCopy = .error e → e.kind = .format) ∧
    ∀ copy, ({ m with body } : Message).deliveryCopy = .ok copy → CopyOf m copy ∧
      ∀ body', copy.body.Reorders body' →
        ∃ again, ({ copy with body := body' } : Message).deliveryCopy = .ok again ∧
          CopyOf m again := by
  have same := order.sameContent
  refine ⟨⟨?_, ?_⟩, ?_, ?_⟩
  · rintro ⟨e, failed⟩
    by_contra fits
    rw [← same.unencodable] at fits
    obtain ⟨copy, copied, -⟩ := exists_deliveryCopy (m := { m with body }) fits
    rw [failed] at copied
    cases copied
  · intro unfit
    rw [← same.unencodable] at unfit
    obtain ⟨e, failed, -⟩ := deliveryCopy_error (m := { m with body }) unfit
    exact ⟨e, failed⟩
  · intro e failed
    by_cases unfit : body.Unencodable
    · obtain ⟨e', failed', kind⟩ := deliveryCopy_error (m := { m with body }) unfit
      rw [failed] at failed'
      cases failed'
      exact kind
    · obtain ⟨copy, copied, -⟩ := exists_deliveryCopy (m := { m with body }) unfit
      rw [failed] at copied
      cases copied
  · intro copy copied
    obtain ⟨fits, spec⟩ := deliveryCopy_ok copied
    have first := spec.of_sameContent same
    refine ⟨first, ?_⟩
    intro body' order'
    have same' := order'.sameContent
    have fits' : ¬ body'.Unencodable := by
      rwa [same'.unencodable, spec.body.content.unencodable]
    obtain ⟨again, copied', spec'⟩ := exists_deliveryCopy (m := { copy with body := body' }) fits'
    exact ⟨again, copied', first.trans (spec'.of_sameContent same')⟩

def samplePair : Message :=
  { properties := { values := Table.ofList [("colour", .string "red")] }
    body := .map { entries := Table.ofList [("a", .int 1), ("b", .bytes [7])] } }

/-- The same message with its entries the other way round. -/
def samplePairSwapped : Message :=
  { samplePair with body := .map ⟨Table.ofList [("b", .bytes [7]), ("a", .int 1)], false⟩ }

/-- Both entries arrive, and arrive again when the copy is sent on. -/
theorem deliveryCopy_faithful_pair :
    ∃ copy again, samplePairSwapped.deliveryCopy = .ok copy ∧ CopyOf samplePair copy ∧
      copy.deliveryCopy = .ok again ∧ CopyOf samplePair again := by
  have order : samplePair.body.Reorders samplePairSwapped.body :=
    .map { entries := Table.ofList [("a", .int 1), ("b", .bytes [7])] } (List.Perm.swap _ _ _)
  obtain ⟨first, forwarded⟩ := (deliveryCopy_faithful samplePair order).2.2 _ rfl
  obtain ⟨again, copied, second⟩ := forwarded _ (.refl _)
  exact ⟨_, again, rfl, first, copied, second⟩

end Message

end Courier
