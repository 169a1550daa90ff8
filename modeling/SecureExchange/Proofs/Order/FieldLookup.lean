import SecureExchange.Proofs.Exchange.NameReading
import SecureExchange.Proofs.Order.Completion

/-!
# Looking up the fields of a reply

The fields of a reply are grouped by their names, with ASCII letters made small, and a response
looks up a name with all of its letters made small. So of the fields that a name means, letter case
aside, only those are found whose own names hold no capitals beyond ASCII: the value that a response
gives is that of the first of them (`first?_eq_named`). As long as all names are such, both ways of
making a name small come to the same, and grouping and look-up follow one rule (`Indexes`).
-/

namespace SecureExchange

open Failure Text

/-- Names and values of the fields of a reply, as text, in order of arrival. -/
def Reply.texts (r : Reply) : List (String × String) :=
  r.fields.map fun e ↦ (readWith r.charset e.name, readWith r.charset e.value)

/-- The fields that a name means, letter case aside. -/
def Reply.named (r : Reply) (name : String) : List (String × String) :=
  r.texts.filter fun p ↦ decide (lower p.1 = lower name)

/-- A response keeps all fields under their small names in order of arrival, and finds the first one
whose small name is that of the name looked up. -/
structure Response.Indexes (small : String → String) (fields : List (String × String))
    (response : Response) : Prop where
  groups : OrderedMap.Groups (fields.map fun p ↦ (small p.1, p.2)) response.fields
  first : ∀ name, response.first? name
    = (fields.find? fun p ↦ decide (small p.1 = small name)).map Prod.snd

theorem OrderedMap.Groups.head? {κ α : Type} [BEq κ] [LawfulBEq κ] {pairs : List (κ × α)}
    {m : OrderedMap κ (List α)} (h : Groups pairs m) (k : κ) :
    ((get? k m).getD []).head? = (pairs.find? (·.1 == k)).map Prod.snd := by
  rw [h.values, valuesOf, List.head?_map, List.head?_filter]

namespace Reply

variable {r : Reply} {response : Response}

/-- The character set of a reply reads all of its fields. -/
theorem decodes_fields (r : Reply) {e : Field} (he : e ∈ r.fields) :
    (r.charset.decode? e.name).isSome = true ∧ (r.charset.decode? e.value).isSome = true := by
  have hfits : ∀ k : Charset, r.fields.all (fun e ↦ (k.decode? e.name).isSome
      && (k.decode? e.value).isSome) = true →
      (k.decode? e.name).isSome = true ∧ (k.decode? e.value).isSome = true :=
    fun k hall ↦ Bool.and_eq_true_iff.mp (List.all_eq_true.mp hall e he)
  unfold charset charsetOf
  dsimp only
  split
  · next hascii => exact hfits _ hascii
  split
  · next hutf8 => exact hfits _ hutf8
  · exact ⟨rfl, rfl⟩

theorem readFields_eq (r : Reply) :
    readFields r.charset r.fields = r.texts.map fun p ↦ (smallAscii p.1, p.2) := by
  rw [readFields, texts, List.map_map]
  exact List.map_congr_left fun e _ ↦ Prod.ext (readWith_key r.charset e) rfl

theorem fields_toResponse (r : Reply) (content : Octets) :
    (r.toResponse content).fields = r.groupedFields := by
  unfold toResponse
  split <;> rfl

/-- The keys of the map are the names, with ASCII letters made small. -/
theorem groups_groupedFields (r : Reply) :
    OrderedMap.Groups (r.texts.map fun p ↦ (smallAscii p.1, p.2)) r.groupedFields := by
  rw [groupedFields, ← readFields_eq]
  exact OrderedMap.group_groups _

/-- The look-up compares names made small in two ways. -/
theorem first?_eq_find? (h : response.fields = r.groupedFields) (name : String) :
    response.first? name
      = (r.texts.find? fun p ↦ decide (smallAscii p.1 = lower name)).map Prod.snd := by
  have hhead : response.first? name
      = ((OrderedMap.get? (lower name) r.groupedFields).getD []).head? := by
    rw [Response.first?, h]
    cases OrderedMap.get? (lower name) r.groupedFields <;> rfl
  rw [hhead, (groups_groupedFields r).head?, List.find?_map, Option.map_map]
  rfl

/-- Of the fields that a name means, the first one with a plain name is found. -/
theorem first?_eq_named (h : response.fields = r.groupedFields) (name : String) :
    response.first? name
      = ((r.named name).find? fun p ↦ decide (IsPlain p.1)).map Prod.snd := by
  rw [first?_eq_find? h, named, List.find?_filter]
  simp only [smallAscii_eq_lower_iff, Bool.decide_and, Bool.decide_eq_true]

theorem indexes_of_plain (h : response.fields = r.groupedFields)
    (hplain : ∀ p ∈ r.texts, IsPlain p.1) : response.Indexes lower r.texts := by
  constructor
  · have hsame : r.texts.map (fun p ↦ (lower p.1, p.2))
        = r.texts.map fun p ↦ (smallAscii p.1, p.2) :=
      List.map_congr_left fun p hp ↦ Prod.ext (hplain p hp).symm rfl
    rw [hsame, h]
    exact groups_groupedFields r
  · intro name
    have hall : (r.named name).find? (fun p ↦ decide (IsPlain p.1)) = (r.named name).head? := by
      cases hnamed : r.named name with
      | nil => rfl
      | cons p rest =>
          have hp : p ∈ r.named name := by rw [hnamed]; exact List.mem_cons_self
          exact List.find?_cons_of_pos (decide_eq_true (hplain p (List.mem_filter.mp hp).1))
    rw [first?_eq_named h, hall, named, List.head?_filter]

end Reply

namespace Exchange

variable {x y z : Exchange} {o : Order} {p : Proposal} {n : Network} {script : Script}
  {custom : Bool} {openings : List (Option FailureId)} {j : Journal} {u : Bool}
  {response : Response}

/-- A response is made of the reply that answers the next request. -/
theorem Performing.ofReply (h : Performing x (.ok response) z) (hx : x.Prepared) :
    ∃ r content, x.network.script.next = .reply r ∧ response = r.toResponse content := by
  generalize houtcome : (Except.ok response : Outcome Response) = outcome at h
  cases h with
  | notConnected => cases houtcome
  | @answered r outcome y _ hconnect hchannel _ hdrain =>
      cases outcome with
      | error id => cases houtcome
      | ok content =>
          cases connect_connecting hx.fresh hx.phase hconnect with
          | connected _ _ hnext =>
              obtain ⟨rfl, -⟩ := Channel.mk.inj (Option.some.inj hchannel)
              exact ⟨_, content, hnext, Except.ok.inj houtcome⟩

theorem fulfil_of_settle {address : String} {outcome : Outcome Response} {w : Exchange}
    (hz : z.StreamReleased) (h : settle address (outcome, z) = (.ok response, w)) :
    outcome = .ok response := by
  cases outcome with
  | error id =>
      rw [settle_of_error hz] at h
      simp at h
  | ok r =>
      cases hshown : Redaction.addressText address with
      | error e =>
          rw [settle_of_unshown hz hshown] at h
          simp [raiseFault, Exchange.raise] at h
      | ok shown =>
          rw [settle_of_shown hz hshown] at h
          exact congrArg Except.ok (Except.ok.inj (Prod.mk.inj h).1)

/-- The response to an order is made of the first reply of the peer. -/
theorem send_ofReply
    (hsend : o.send (.start custom script openings) j u = .ok (.ok response, y)) :
    ∃ r content, script.next = .reply r ∧ response = r.toResponse content := by
  cases hstart : start o.proposal (.start custom script openings) j u with
  | error refusal => simp [Order.send, hstart] at hsend
  | ok x =>
      have hx := start_started hstart
      rw [send_of_start hstart] at hsend
      have hfulfilling := fulfil_fulfilling x o
      have hended : (x.fulfil o).1 = .ok response :=
        fulfil_of_settle (hfulfilling.streamReleased hx) (Except.ok.inj hsend)
      rw [hended] at hfulfilling
      generalize (x.fulfil o).2 = z at hfulfilling
      cases hfulfilling with
      | performed hprepare hperform =>
          have hready := (prepare_preparing hx hprepare).ready hx (Network.idle_of_start hx.opened)
          have hperforming := perform_performing hready.toPrepared hperform
          obtain ⟨r, content, hnext, hresponse⟩ := hperforming.ofReply hready.toPrepared
          exact ⟨r, content, hready.idle.script ▸ hnext, hresponse⟩

/-- All fields of a reply can be read, and whoever asks for them gets them grouped by their names,
with ASCII letters made small: no field is lost, doubled or moved. The response to an order holds
the same map. The value that it finds under a name is that of the first field whose name, with ASCII
letters made small, is the given one, with all letters made small. Of the fields that the given name
means that is the first one with a plain name. So all is found under one rule as long as there are
no capitals beyond ASCII, in the given name or in those of the fields. -/
theorem responses_find_first_plain_field (r : Reply) :
    (∀ e ∈ r.fields,
      (r.charset.decode? e.name).isSome = true ∧ (r.charset.decode? e.value).isSome = true) ∧
    (∀ {x : Exchange} {isClosed}, x.channel = some ⟨r, isClosed⟩ →
      ∃ fields, x.replyFields = (.ok fields, x) ∧
        OrderedMap.Groups (r.texts.map fun p ↦ (smallAscii p.1, p.2)) fields) ∧
    ∀ {o : Order} {custom later client openings j u response y},
      o.send (.start custom ⟨.reply r, later, client⟩ openings) j u = .ok (.ok response, y) →
      OrderedMap.Groups (r.texts.map fun p ↦ (smallAscii p.1, p.2)) response.fields ∧
      (∀ name, response.first? name
        = (r.texts.find? fun p ↦ decide (smallAscii p.1 = lower name)).map Prod.snd) ∧
      (∀ name, response.first? name
        = ((r.named name).find? fun p ↦ decide (IsPlain p.1)).map Prod.snd) ∧
      (∀ name, IsPlain name → response.first? name
        = (r.texts.find? fun p ↦ decide (smallAscii p.1 = smallAscii name)).map Prod.snd) ∧
      ((∀ p ∈ r.texts, IsPlain p.1) → response.Indexes lower r.texts) := by
  refine ⟨fun e ↦ r.decodes_fields, ?_, ?_⟩
  · intro x isClosed hchannel
    refine ⟨r.groupedFields, ?_, r.groups_groupedFields⟩
    simp only [replyFields, withReply, hchannel]
  · intro o custom later client openings j u response y hsend
    obtain ⟨_, content, hnext, rfl⟩ := send_ofReply hsend
    obtain rfl := Answer.reply.inj hnext
    have hfields := r.fields_toResponse content
    refine ⟨?_, Reply.first?_eq_find? hfields, Reply.first?_eq_named hfields, ?_,
      Reply.indexes_of_plain hfields⟩
    · rw [hfields]
      exact r.groups_groupedFields
    · intro name hname
      rw [Reply.first?_eq_find? hfields, ← hname]

/-- Two values of one name, in different cases. -/
def repeated : Reply :=
  ⟨200, [.ofText "X-Note" "a", .ofText "Via" "c", .ofText "X-NOTE" "b"], [[0x6f]], none, none⟩

theorem responses_find_first_plain_field_of_repeated :
    ∃ response y fields,
      hubOrder.send (.start true ⟨.reply repeated, [], .plain⟩ []) ⟨[], []⟩ false
        = .ok (.ok response, y) ∧
      y.replyFields = (.ok fields, y) ∧ OrderedMap.keys fields = ["x-note", "via"] ∧
      response.Indexes lower repeated.texts ∧ response.first? "x-Note" = some "a" := by
  obtain ⟨response, y, hsend, hy⟩ := exists_of_answered_send (o := hubOrder)
    (n := .start true ⟨.reply repeated, [], .plain⟩ []) (j := ⟨[], []⟩) (u := false)
    (q := fun _ y ↦ y.channel.any fun c : Channel ↦ decide (c.reply.texts = repeated.texts))
    (by decide +kernel)
  obtain ⟨c, hchannel, hc⟩ := (Option.any_eq_true ..).mp hy
  obtain ⟨fields, hfields, hgroups⟩ := (responses_find_first_plain_field c.reply).2.1 hchannel
  obtain ⟨_, hfirst, _, _, hplain⟩ := (responses_find_first_plain_field repeated).2.2 hsend
  have htexts : repeated.texts = [("X-Note", "a"), ("Via", "c"), ("X-NOTE", "b")] := by
    decide +kernel
  refine ⟨response, y, fields, hsend, hfields, ?_, hplain ?_, ?_⟩
  · rw [hgroups.keys, of_decide_eq_true hc, htexts]
    decide +kernel
  · have hascii : ∀ p ∈ repeated.texts, allAscii p.1.toList = true := by
      rw [htexts]
      decide
    exact fun p hp ↦ isPlain_of_ascii (hascii p hp)
  · rw [hfirst, htexts]
    decide +kernel

/-- A name with an accent as a capital, and then in small letters. -/
def accented : Reply := ⟨200, [.ofText "É" "1", .ofText "é" "2"], [[0x6f]], none, none⟩

/-- The first field is missed under its own name, by whatever rule names are made small. -/
theorem accented_capital_missed :
    ∃ response y, hubOrder.send (.start true ⟨.reply accented, [], .plain⟩ []) ⟨[], []⟩ false
        = .ok (.ok response, y) ∧
      accented.texts = [("É", "1"), ("é", "2")] ∧ response.first? "É" = some "2" ∧
      ∀ small, ¬ response.Indexes small accented.texts := by
  obtain ⟨response, y, hsend, hsecond⟩ := exists_of_answered_send (o := hubOrder)
    (n := .start true ⟨.reply accented, [], .plain⟩ []) (j := ⟨[], []⟩) (u := false)
    (q := fun response _ ↦ decide (response.first? "É" = some "2")) (by decide +kernel)
  have hsecond := of_decide_eq_true hsecond
  have htexts : accented.texts = [("É", "1"), ("é", "2")] := by decide +kernel
  refine ⟨response, y, hsend, htexts, hsecond, ?_⟩
  intro small hindexes
  have hfirst := hindexes.first "É"
  rw [hsecond, htexts] at hfirst
  simp at hfirst

end Exchange

end SecureExchange
