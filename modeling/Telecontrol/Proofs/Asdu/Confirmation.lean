import Telecontrol.Link.Basic
import Telecontrol.Proofs.Asdu.Canonical

/-!
# Confirmations are recognised

A station answers a command with the unit that it has read, under the confirming cause. The
answer can be sent (`AsduFormat.IsRead.encode_confirmation`), because of what was read only the
cause octet changes; and the other station reads what the first one meant
(`AsduFormat.IsRead.clipped_confirmation`), because a unit that was read fits its fields. What
the two units have in common is more than what a confirmation is recognised by.
-/

namespace Telecontrol

/-- The cause of a confirmation can be read from an octet, like that of the request. -/
theorem Cause.confirmation_ofOctet (b : UInt8) :
    ∃ octet, (ofOctet b).confirmation = ofOctet octet := by
  cases h : ofOctet b with
  | activation => exact ⟨7, rfl⟩
  | deactivation => exact ⟨9, rfl⟩
  | _ => exact ⟨b, h.symm⟩

theorem Asdu.firstAddress?_clipped (f : AsduFormat) (a : Asdu) :
    (a.clipped f).firstAddress? = a.firstAddress? := by
  unfold clipped firstAddress? objects
  cases a.body with
  | verbatim count data => rfl
  | objects objects => cases objects <;> rfl

/-- An octet holds the cause of a command as it is. -/
theorem Asdu.cause_confirmation_clipped (f : AsduFormat) (negative : Bool) {command : Asdu}
    (hcause : command.cause = .activation ∨ command.cause = .deactivation) :
    ((command.clipped f).confirmation negative).cause = command.cause.confirmation := by
  have hcode : Cause.ofCode command.cause.code = command.cause := by
    rcases hcause with hcause | hcause <;> rw [hcause] <;> rfl
  exact congrArg Cause.confirmation hcode

/-- A command is recognised in the confirmation of what a station reads of it, because nothing
is clipped that it is recognised by. -/
theorem Expectation.isMetBy_confirmation (f : AsduFormat) (ticket : Nat) (negative : Bool)
    {command : Asdu} (hcause : command.cause = .activation ∨ command.cause = .deactivation) :
    (ofAsdu ticket command).isMetBy ((command.clipped f).confirmation negative) = true := by
  have haddress : ((command.clipped f).confirmation negative).firstAddress? =
      command.firstAddress? := command.firstAddress?_clipped f
  rw [isMetBy, Asdu.cause_confirmation_clipped f negative hcause, haddress]
  rcases hcause with hcause | hcause <;> rw [hcause] <;>
    simp [ofAsdu, Cause.confirmation, Asdu.confirmation, Asdu.clipped]

namespace AsduFormat

variable {f : AsduFormat} {a : Asdu}

/-- A unit in which the writer finds no fault is written if its cause and its body are. -/
theorem encode_of_parts {cause : UInt8} {body : Octets} (hfault : f.fault? a = none)
    (hcause : causeOctet a = .ok cause) (hbody : f.encodeBody a.body = .ok body) :
    ∃ octets, f.encode a = .ok octets := by
  rw [encode, hfault]
  simp only [hcause, hbody]
  exact ⟨_, rfl⟩

/-- A confirmation carries what the unit carried that it confirms. -/
theorem fault?_confirmation (negative : Bool) :
    f.fault? (a.confirmation negative) = f.fault? a := rfl

variable {typeOctet qualifier causeOctet : UInt8} {body : Octets}

/-- The confirmation of a unit that was read can be sent if the unit itself could. -/
theorem IsRead.encode_confirmation (h : f.IsRead typeOctet qualifier causeOctet body a)
    (hf : f.Regular) (haddressable : a.Addressable f) (negative : Bool) :
    ∃ octets, f.encode (a.confirmation negative) = .ok octets := by
  obtain ⟨mask, -, -, hwrite⟩ := h.encodeBody_eq_ok hf
  obtain ⟨octet, hoctet⟩ := Cause.confirmation_ofOctet causeOctet
  have hcode : (a.confirmation negative).cause.encode = .ok (octet &&& Cause.codeMask) := by
    show a.cause.confirmation.encode = _
    rw [h.cause, hoctet, Cause.encode_ofOctet]
  have hcause : ∃ cause, AsduFormat.causeOctet (a.confirmation negative) = .ok cause := by
    rw [AsduFormat.causeOctet, hcode]
    exact ⟨_, rfl⟩
  obtain ⟨cause, hcause⟩ := hcause
  refine encode_of_parts ?_ hcause hwrite
  rw [fault?_confirmation]
  exact (h.fault?_eq_none_iff hf).mpr haddressable

/-- Nothing is lost when the confirmation of a unit that was read is written. -/
theorem IsRead.clipped_confirmation (h : f.IsRead typeOctet qualifier causeOctet body a)
    (hf : f.Regular) {type : AsduType} (htype : a.type = .standard type) (negative : Bool) :
    (a.confirmation negative).clipped f = a.confirmation negative := by
  refine Asdu.clipped_eq hf.causeWidth ?_ h.originator (h.clipped_object hf htype)
  rw [Asdu.confirmation, h.cause]
  exact Cause.confirmation_ofOctet causeOctet

/-- A unit that can be written can still be after it has been read. -/
theorem addressable_clipped {type : AsduType} {objects : List InformationObject}
    (htype : a.type = .standard type) (hbody : a.body = .objects objects)
    (hsets : ∃ o ∈ objects, o.sets ≠ []) (hfault : f.fault? a = none) :
    (a.clipped f).Addressable f ∧ (a.sequence = true → ∀ o ∈ objects, o.sets ≠ []) := by
  have haccepts := accepts_of_fault? htype hbody hfault
  have hlast := addressFault?_eq_none_iff.mp ((fault?_eq_none_iff hbody).mp hfault).2.2.2.1
  obtain ⟨o, ho, hset⟩ := hsets
  have honly : a.sequence = true → objects = [o] := by
    intro hsequence
    obtain ⟨only, rfl⟩ := haccepts.consecutive hsequence
    rw [List.mem_singleton.mp ho]
  constructor
  · intro hsequence objects' hobjects'
    obtain rfl := honly hsequence
    have hclipped : (a.clipped f).body = .objects [o.clipped] := by
      rw [Asdu.clipped, hbody]
      rfl
    cases hclipped.symm.trans hobjects'
    have hlength : o.clipped.sets.length = o.sets.length := List.length_map _
    have hcount : (a.clipped f).count = o.sets.length := by
      rw [← hlength]
      simp [Asdu.count, hclipped, show (a.clipped f).sequence = true from hsequence]
    rw [hcount]
    exact ⟨List.length_pos_iff.mpr hset, List.forall_mem_singleton.mpr (hlast o ho)⟩
  · intro hsequence o' ho'
    rw [honly hsequence, List.mem_singleton] at ho'
    rwa [ho']

/-- The confirmation of a command is recognised by the station that has sent the command: the
other station reads the command and can send its confirmation, in which the first one reads
what was confirmed. -/
theorem confirmation_recognised (settings : Settings) (hvalid : settings.Valid)
    (sender peer : Option Extension) (ticket : Nat) (negative : Bool) (command : Asdu)
    (type : AsduType) (octets : Octets) (htype : command.type = .standard type)
    (hcause : command.cause = .activation ∨ command.cause = .deactivation)
    (hsets : ∃ o ∈ command.objects, o.sets ≠ [])
    (h : (settings.format sender).encode command = .ok octets) :
    ∃ request answer reply, (settings.format peer).decode octets = .ok request ∧
      (settings.format peer).encode (request.confirmation negative) = .ok answer ∧
        (settings.format sender).decode answer = .ok reply ∧
          (Expectation.ofAsdu ticket command).isMetBy reply = true ∧
            reply.negative = negative ∧ reply.cause = command.cause.confirmation ∧
              reply.type = request.type ∧ reply.commonAddress = request.commonAddress ∧
                reply.objects = request.objects := by
  have hf : (settings.format none).Regular := hvalid.regular nofun
  obtain ⟨objects, hbody⟩ : ∃ objects, command.body = .objects objects := by
    cases hbody : command.body with
    | objects objects => exact ⟨objects, rfl⟩
    | verbatim count data =>
      obtain ⟨o, ho, -⟩ := hsets
      rw [Asdu.objects, hbody] at ho
      cases ho
  rw [Asdu.objects_eq hbody] at hsets
  -- Neither station's extension has a part in what is written or read of a standard type.
  have hplain : (settings.format none).encode command = .ok octets := h
  obtain ⟨haddressable, hnonempty⟩ :=
    addressable_clipped htype hbody hsets (encode_eq_ok hplain).1
  have hrequest : (settings.format peer).decode octets =
      .ok (command.clipped (settings.format none)) :=
    decode_encode hvalid.causeWidth htype hbody hnonempty h
  obtain ⟨typeOctet, qualifier, causeOctet, body, -, hread⟩ :=
    decode_eq_ok hf (decode_encode hvalid.causeWidth htype hbody hnonempty hplain)
  obtain ⟨answer, hanswer⟩ := hread.encode_confirmation hf haddressable negative
  have hreplySets : command.sequence = true →
      ∀ o ∈ objects.map InformationObject.clipped, o.sets ≠ [] := by
    intro hsequence o ho hempty
    obtain ⟨own, hown, rfl⟩ := List.mem_map.mp ho
    exact hnonempty hsequence own hown (List.map_eq_nil_iff.mp hempty)
  have hreply : (settings.format sender).decode answer =
      .ok ((command.clipped (settings.format none)).confirmation negative) := by
    rw [← hread.clipped_confirmation hf htype negative]
    refine decode_encode hvalid.causeWidth htype ?_ hreplySets hanswer
    rw [Asdu.confirmation, Asdu.clipped, hbody]
  exact ⟨_, answer, _, hrequest, hanswer, hreply,
    Expectation.isMetBy_confirmation _ ticket negative hcause, rfl,
    Asdu.cause_confirmation_clipped _ negative hcause, rfl, rfl, rfl⟩

/-- The refusal of a command is recognised, though the qualifier of the command exceeds its
field. -/
theorem refusal_recognised :
    ({ causeWidth := 1, commonAddressWidth := 1, objectAddressWidth := 2 } : Settings).Valid ∧
      let f := ({ causeWidth := 1, commonAddressWidth := 1, objectAddressWidth := 2 } :
        Settings).format none
      let command := Asdu.single .singleCommand .activation 7 0x1FF [.singleCommand true 37 false]
      f.encode command = .ok [45, 1, 6, 7, 0xFF, 1, 0x15] ∧
        ∃ request answer reply, f.decode [45, 1, 6, 7, 0xFF, 1, 0x15] = .ok request ∧
          f.encode (request.confirmation true) = .ok answer ∧ f.decode answer = .ok reply ∧
            (Expectation.ofAsdu 3 command).isMetBy reply = true ∧ reply.negative = true := by
  have hvalid : ({ causeWidth := 1, commonAddressWidth := 1, objectAddressWidth := 2 } :
      Settings).Valid := (Settings.validate_eq_ok_iff _).mp rfl
  obtain ⟨request, answer, reply, hrequest, hanswer, hreply, hmet, hnegative, -⟩ :=
    confirmation_recognised _ hvalid none none 3 true
      (Asdu.single .singleCommand .activation 7 0x1FF [.singleCommand true 37 false])
      .singleCommand [45, 1, 6, 7, 0xFF, 1, 0x15] rfl (.inl rfl)
      ⟨_, List.mem_cons_self, List.cons_ne_nil _ _⟩ rfl
  exact ⟨hvalid, rfl, request, answer, reply, hrequest, hanswer, hreply, hmet, hnegative⟩

end AsduFormat

end Telecontrol
