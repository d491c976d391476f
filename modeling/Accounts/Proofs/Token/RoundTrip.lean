import Accounts.Proofs.Json.RoundTrip
import Accounts.Proofs.Token.Segment

/-!
# Claims back and forth

The JSON form of claims is read back to the same claims, and the check of validity finds their times
in it.

* `Claims.decode_encode` — reading claims that were written.
* `Window.decode_encode` — what the check finds in them.
* `segments_sign` — cutting a token that was signed.
-/

namespace Accounts.Token

open Json Json.Reader

variable {rest : List UInt8}

/-! ## Metadata -/

theorem insertEntry_of_lt {key value : String} {entries : List (String × String)}
    (h : ∀ e ∈ entries, e.1 < key) :
    insertEntry key value entries = entries ++ [(key, value)] := by
  induction entries with
  | nil => rfl
  | cons e entries ih =>
    obtain ⟨k, v⟩ := e
    have hk : k < key := h (k, v) List.mem_cons_self
    have hnot : ¬ key < k := fun hlt => String.lt_irrefl _ (String.lt_trans hk hlt)
    have hne : key ≠ k := fun he => String.lt_irrefl k (he ▸ hk)
    rw [insertEntry, if_neg hnot, if_neg hne, ih fun e he => h e (List.mem_cons_of_mem _ he)]
    rfl

namespace Metadata

theorem foldl_insert (m : Metadata) (entries : List (String × String))
    (h : Ascending (m.entries ++ entries)) :
    (entries.foldl (fun m e => m.insert e.1 e.2) m).entries = m.entries ++ entries := by
  induction entries generalizing m with
  | nil => simp
  | cons e entries ih =>
    obtain ⟨key, value⟩ := e
    have hinsert : (m.insert key value).entries = m.entries ++ [(key, value)] :=
      insertEntry_of_lt fun e he => (List.pairwise_append.1 h).2.2 e he _ List.mem_cons_self
    have happend : m.entries ++ (key, value) :: entries =
        (m.entries ++ [(key, value)]) ++ entries := by simp
    rw [happend, ← hinsert] at h
    rw [List.foldl_cons, ih _ h, hinsert, ← happend]

theorem takes_member (entries : List (String × String)) (m : Metadata) :
    Takes (fun key (m : Metadata) => do
        colon
        let value ← string "a string"
        pure (m.insert key value))
      (textEntries entries) m (entries.foldl (fun m e => m.insert e.1 e.2) m) := by
  induction entries generalizing m with
  | nil => exact .nil m
  | cons e entries ih =>
    obtain ⟨key, value⟩ := e
    refine .cons (fun rest _ => ?_) (ih (m.insert key value))
    rw [bind_of_eq_ok (colon_eq_ok.2 rfl), bind_of_eq_ok (string_written _ value rest)]
    rfl

/-- **Metadata** are read back. -/
theorem reader_written (m : Metadata) (rest : List UInt8) :
    Metadata.reader (written m.toJson ++ rest) = .ok m rest := by
  refine object_written (takes_member m.entries .empty) (congrArg _ ?_) rest
  exact Metadata.ext (foldl_insert .empty m.entries m.ascending)

end Metadata

/-! ## Claims -/

theorem Purpose.reader_written (p : Purpose) (rest : List UInt8) :
    Purpose.reader (written (.text p.name) ++ rest) = .ok p rest := by
  obtain ⟨after, hdrop, htext⟩ := dropWhile_quote p.name rest
  refine valueStart_bind_eq_ok.2 ⟨_, after, hdrop, ?_⟩
  rw [if_pos (beq_self_eq_true _), variant.named, located_eq_ok, bind_eq_ok]
  refine ⟨p.name, rest, string_eq_ok.2 ⟨after, rfl, htext⟩, ?_⟩
  cases p <;> rfl

namespace Claims

/-- The members of the JSON form. -/
def entries (c : Claims) : List (String × Json) :=
  [("sub", .text c.subject), ("iss", .text c.issuer), ("jti", .text c.tokenId),
    ("iat", .int c.issuedAt.toInt), ("nbf", .int c.notBefore.toInt),
    ("exp", .int c.expiresAt.toInt), ("purpose", .text c.purpose.name)] ++
    if c.metadata.isEmpty then [] else [("metadata", c.metadata.toJson)]

theorem encode_eq (c : Claims) : c.encode = written (.object c.entries) :=
  encode_ofList _

theorem isSigned64 (n : Int64) : Integer.IsSigned64 n.toInt := by
  have hlt := n.toInt_lt
  have hle := n.le_toInt
  unfold Integer.IsSigned64
  omega

theorem timeReader_written (n : Int64) (hrest : EndsNumber rest) :
    timeReader (written (.int n.toInt) ++ rest) = .ok n.toInt rest :=
  integer_write (isSigned64 n) (decide_eq_true (isSigned64 n)) hrest

/-- The draft that all fields have gone into. -/
def full (c : Claims) : Draft where
  subject := some c.subject
  issuer := some c.issuer
  tokenId := some c.tokenId
  issuedAt := some c.issuedAt.toInt
  notBefore := some c.notBefore.toInt
  expiresAt := some c.expiresAt.toInt
  purpose := some c.purpose
  metadata := if c.metadata.isEmpty then none else some c.metadata

theorem takes_member (c : Claims) : Takes member c.entries {} c.full := by
  refine .cons (fun rest h => bind_of_eq_ok (field_written (string_written _ c.subject rest)) _) ?_
  refine .cons (fun rest h => bind_of_eq_ok (field_written (string_written _ c.issuer rest)) _) ?_
  refine .cons (fun rest h => bind_of_eq_ok (field_written (string_written _ c.tokenId rest)) _) ?_
  refine .cons (fun rest h =>
    bind_of_eq_ok (field_written (timeReader_written c.issuedAt h.endsNumber)) _) ?_
  refine .cons (fun rest h =>
    bind_of_eq_ok (field_written (timeReader_written c.notBefore h.endsNumber)) _) ?_
  refine .cons (fun rest h =>
    bind_of_eq_ok (field_written (timeReader_written c.expiresAt h.endsNumber)) _) ?_
  refine .cons (fun rest h =>
    bind_of_eq_ok (field_written (Purpose.reader_written c.purpose rest)) _) ?_
  unfold full
  cases c.metadata.isEmpty with
  | true => exact .nil _
  | false =>
    exact .cons (fun rest h => bind_of_eq_ok
      (field_written (Metadata.reader_written c.metadata rest)) _) (.nil _)

theorem finish_full (c : Claims) : c.full.finish = .ok c := by
  have hmetadata : c.full.metadata.getD .empty = c.metadata := by
    unfold full
    cases hempty : c.metadata.isEmpty with
    | true => exact (Metadata.ext (List.isEmpty_iff.1 hempty)).symm
    | false => rfl
  obtain ⟨subject, issuer, tokenId, issuedAt, notBefore, expiresAt, purpose, metadata⟩ := c
  show Except.ok _ = _
  simp only [hmetadata, Int64.ofInt_toInt]

/-- **Reading claims that were written.** -/
@[simp] theorem decode_encode (c : Claims) : Claims.decode c.encode = .ok c := by
  refine run_eq_ok.2 ⟨[], ?_, rfl⟩
  rw [encode_eq, ← List.append_nil (written _)]
  exact record_written c.takes_member c.finish_full []

end Claims

/-! ## The check of validity -/

namespace Window

theorem optional_text {α : Type} {r : Json.Reader α} {a : α} {s : String}
    (h : r (written (.text s) ++ rest) = .ok a rest) :
    optional r (written (.text s) ++ rest) = .ok (some a) rest := by
  rw [written_text, wire_quote] at h ⊢
  exact bind_of_eq_ok h _

theorem attempt_of_eq_ok {α : Type} {r : Json.Reader α} {a : α} {input : List UInt8}
    (h : r input = .ok a rest) : attempt r input = .ok (some a) rest := by
  rw [attempt_apply, h]
  rfl

theorem subjectReader_written (s : String) (rest : List UInt8) :
    subjectReader (written (.text s) ++ rest) = .ok true rest :=
  bind_of_eq_ok (attempt_of_eq_ok (optional_text (string_written _ s rest))) _

theorem namesReader_written (s : String) (rest : List UInt8) :
    namesReader (written (.text s) ++ rest) = .ok true rest :=
  bind_of_eq_ok (attempt_of_eq_ok (optional_text (value_text 126 s rest))) _

theorem timeReader_written (n : Int64) (hrest : EndsNumber rest) :
    timeReader (written (.int n.toInt) ++ rest) = .ok n.toInt.toNat? rest := by
  refine (bind_of_eq_ok (attempt_of_eq_ok (value_int 126 (Claims.isSigned64 n) hrest)) _).trans ?_
  unfold wholeNumber
  cases n.toInt with
  | ofNat m => rfl
  | negSucc m => rw [if_pos (Int.negSucc_lt_zero m)]; rfl

theorem ignoredField_text (name s : String) (d : Draft) (rest : List UInt8) :
    (do ignoredField name; pure d : Json.Reader Draft)
      (byte ':' :: (written (.text s) ++ rest)) = .ok d rest :=
  bind_of_eq_ok (ignoredField_eq_ok.2 ⟨_, colon_eq_ok.2 rfl, skip_text s rest⟩) _

theorem takes_member (c : Claims) :
    Takes member c.entries {} {
      expiry := some c.expiresAt.toInt.toNat?
      notBefore := some c.notBefore.toInt.toNat?
      subject := some true
      issuer := some () } := by
  refine .cons (fun rest h =>
    bind_of_eq_ok (field_written (subjectReader_written c.subject rest)) _) ?_
  refine .cons (fun rest h => bind_of_eq_ok
    (field_written (bind_of_eq_ok (namesReader_written c.issuer rest) fun _ => pure ())) _) ?_
  refine .cons (fun rest h => ignoredField_text "jti" c.tokenId _ rest) ?_
  refine .cons (fun rest h => bind_of_eq_ok
    (ignoredField_eq_ok.2 ⟨_, colon_eq_ok.2 rfl, skip_int h.endsNumber⟩) _) ?_
  refine .cons (fun rest h =>
    bind_of_eq_ok (field_written (timeReader_written c.notBefore h.endsNumber)) _) ?_
  refine .cons (fun rest h =>
    bind_of_eq_ok (field_written (timeReader_written c.expiresAt h.endsNumber)) _) ?_
  refine .cons (fun rest h => ignoredField_text "purpose" c.purpose.name _ rest) ?_
  cases c.metadata.isEmpty with
  | true => exact .nil _
  | false =>
    exact .cons (fun rest h => bind_of_eq_ok (ignoredField_eq_ok.2
      ⟨_, colon_eq_ok.2 rfl, skip_texts c.metadata.entries rest⟩) _) (.nil _)

/-- What the check finds in claims: negative times count as missing. -/
def ofClaims (c : Claims) : Window where
  expiry := c.expiresAt.toInt.toNat?
  notBefore := c.notBefore.toInt.toNat?
  hasSubject := true
  hasAudience := false

/-- **What the check finds** in claims that were written. -/
@[simp] theorem decode_encode (c : Claims) : Window.decode c.encode = .ok (ofClaims c) := by
  refine run_eq_ok.2 ⟨[], ?_, rfl⟩
  rw [Claims.encode_eq, ← List.append_nil (written _)]
  exact record_written (takes_member c) (show Draft.finish _ = .ok _ from rfl) []

end Window

/-! ## Tokens -/

theorem segments_sign (c : Claims) (key : Key) :
    segments (sign c key).toList =
      .ok (segment Header.written, segment c.encode, signature key (message c)) := by
  rw [sign, String.toList_ofList]
  exact segments_eq_ok.2 ⟨rfl, not_mem_segment _, not_mem_segment _⟩

theorem Header.decode_written : Header.decode Header.written = .ok ⟨.hs256⟩ := rfl

/-- What a token says, whoever signed it. -/
def saying (token : String) : Except Fault Claims := do
  let (_, payload, _) ← segments token.toList
  let bytes ← segmentBytes payload
  (Claims.decode bytes).mapError (jsonFault bytes)

theorem saying_sign (c : Claims) (key : Key) : saying (sign c key) = .ok c := by
  rw [saying, Except.bind_of_eq_ok (segments_sign c key)]
  simp only [segmentBytes_segment, Except.ok_bind, Claims.decode_encode, Except.mapError_ok]

/-- Tokens with different claims differ, whatever keys they are signed with. -/
theorem eq_of_sign_eq {c c' : Claims} {key key' : Key} (h : sign c key = sign c' key') :
    c = c' := by
  have hsaying := saying_sign c key
  rw [h, saying_sign] at hsaying
  exact (Except.ok.inj hsaying).symm

end Accounts.Token
