import Mathlib.Data.List.Perm.Basic
import A5cCell.DataAccess.Client

/-!
# The S3 client scoped to one tenant

`TenantScopedS3`: what it does with an object names a key under the tenant's own prefix, and what it
lists is what S3 has under it. S3 lists in pages, each but the last of which gives the token of the
next.
-/

namespace A5cCell.DataAccess

open Py (Val Items)

/-! ## Calls -/

/-- A method of the client of S3, called with keyword arguments. -/
structure S3Call where
  method : String
  kwargs : Items

abbrev S3 (α : Type) : Type := Prog S3Call (fun _ => Except Exc Val) Exc α

namespace S3

def ofExcept {α : Type} : Except Exc α → S3 α
  | .ok a => .ret a
  | .error x => .raise x

def call (s3Call : S3Call) : S3 Val := Prog.call s3Call ofExcept

end S3

namespace TenantScopedS3

/-- `self._prefix`. -/
def ownPrefix (tenantId : String) : String := s3TenantDir ++ tenantId ++ "/"

def objectKwargs (bucket key : String) : Items := [("Bucket", .str bucket), ("Key", .str key)]

def getObject (tenantId bucket key : String) : S3 Val := do
  S3.ofExcept (s3ValidateKey tenantId key)
  S3.call ⟨"get_object", objectKwargs bucket key⟩

def putObject (tenantId bucket key : String) (body : Val) (kwargs : Items) : S3 Unit := do
  S3.ofExcept (s3ValidateKey tenantId key)
  let _ ← S3.call ⟨"put_object", objectKwargs bucket key ++ [("Body", body)] ++ kwargs⟩
  pure ()

def deleteObject (tenantId bucket key : String) : S3 Unit := do
  S3.ofExcept (s3ValidateKey tenantId key)
  let _ ← S3.call ⟨"delete_object", objectKwargs bucket key⟩
  pure ()

def generatePresignedUrl (tenantId bucket key : String) (expiresIn : Int := 3600)
    (clientMethod : String := "get_object") : S3 Val := do
  S3.ofExcept (s3ValidateKey tenantId key)
  S3.call ⟨"generate_presigned_url", [("ClientMethod", .str clientMethod),
    ("Params", .dict (objectKwargs bucket key)), ("ExpiresIn", .int expiresIn)]⟩

/-- The response of a listing, and the objects it has. -/
def readListing (response : Val) : Except Exc (Items × List Val) :=
  match response with
  | .dict fields => match Items.get fields "Contents" (.list []) with
    | .list contents => .ok (fields, contents)
    | _ => .error (.typeError "object is not iterable")
  | _ => .error (.other "AttributeError")

/-- The loop of `list_objects`, for as many pages as there is time for. -/
def listPages : ℕ → Items → S3 (List Val)
  | 0, _ => .raise timedOut
  | pages + 1, kwargs => do
      let response ← S3.call ⟨"list_objects_v2", kwargs⟩
      let (fields, contents) ← S3.ofExcept (readListing response)
      if (fields.get "IsTruncated").truthy = false then pure contents
      else if fields.has "NextContinuationToken" = false then
        .raise (.keyError "NextContinuationToken")
      else
        let items ← listPages pages
          (kwargs.set "ContinuationToken" (fields.get "NextContinuationToken"))
        pure (contents ++ items)

def listObjects (pages : ℕ) (tenantId bucket : String) (subPrefix : String := "") : S3 (List Val) :=
  listPages pages [("Bucket", .str bucket), ("Prefix", .str (ownPrefix tenantId ++ subPrefix))]

end TenantScopedS3

/-! ## The keys of a tenant -/

/-- What a client does with one object. -/
inductive ObjectOperation where
  | get
  | put (body : Val) (kwargs : Items)
  | delete
  | presign (expiresIn : Int) (clientMethod : String)

def ObjectOperation.run (tenantId bucket key : String) : ObjectOperation → S3 Val
  | get => TenantScopedS3.getObject tenantId bucket key
  | put body kwargs => do
      TenantScopedS3.putObject tenantId bucket key body kwargs
      pure .none
  | delete => do
      TenantScopedS3.deleteObject tenantId bucket key
      pure .none
  | presign expiresIn clientMethod =>
      TenantScopedS3.generatePresignedUrl tenantId bucket key expiresIn clientMethod

theorem s3ValidateKey_eq_ok {tenantId key : String} : s3ValidateKey tenantId key = .ok () ↔
    Py.startsWith key (TenantScopedS3.ownPrefix tenantId) = true := by
  unfold s3ValidateKey TenantScopedS3.ownPrefix
  split_ifs with h
  · exact iff_of_true rfl h
  · refine iff_of_false ?_ h
    rintro ⟨⟩

/-- A key that is not accepted reaches no object. -/
theorem ObjectOperation.run_refused {tenantId bucket key : String}
    (h : s3ValidateKey tenantId key ≠ .ok ()) (op : ObjectOperation) :
    ∃ target, s3ValidateKey tenantId key = .error (.tenantAccessViolation target tenantId key) ∧
      op.run tenantId bucket key = .raise (.tenantAccessViolation target tenantId key) := by
  have hrefused : ∃ target,
      s3ValidateKey tenantId key = .error (.tenantAccessViolation target tenantId key) := by
    unfold s3ValidateKey at h ⊢
    split_ifs at h ⊢ with haccepted hdir
    · exact absurd rfl h
    · exact ⟨_, rfl⟩
    · exact ⟨_, rfl⟩
  obtain ⟨target, htarget⟩ := hrefused
  refine ⟨target, htarget, ?_⟩
  cases op <;>
    · simp only [run, TenantScopedS3.getObject, TenantScopedS3.putObject,
        TenantScopedS3.deleteObject, TenantScopedS3.generatePresignedUrl, htarget]
      rfl

/-- **Prefixes do not overlap.** Of tenants whose ids have no slash, one has a key at most. -/
theorem s3ValidateKey_unique {a b key : String} (ha : '/' ∉ a.toList) (hb : '/' ∉ b.toList)
    (hkey : s3ValidateKey a key = .ok ()) (hkey' : s3ValidateKey b key = .ok ()) : a = b := by
  obtain ⟨rest, hrest⟩ := Py.startsWith_iff.mp (s3ValidateKey_eq_ok.mp hkey)
  obtain ⟨rest', hrest'⟩ := Py.startsWith_iff.mp (s3ValidateKey_eq_ok.mp hkey')
  have htexts := congrArg String.toList (hrest.symm.trans hrest')
  simp only [TenantScopedS3.ownPrefix, String.toList_append, List.append_assoc] at htexts
  have hids := List.append_cancel_left htexts
  exact String.toList_inj.mp (Py.append_cons_inj_left ha hb hids).1

/-! ## Listings -/

def keyOf : Val → String
  | .dict fields => (Items.get fields "Key").toStr
  | _ => ""

def listKwargs (bucket listPrefix : String) (token : Option Val) : Items :=
  [("Bucket", .str bucket), ("Prefix", .str listPrefix)] ++
    (token.map fun token => ("ContinuationToken", token)).toList

/-- From a token on, S3 lists what is under a prefix in these pages. -/
inductive Listing (answer : S3Call → Except Exc Val) (bucket listPrefix : String) :
    Option Val → List (List Val) → Prop
  | last {token : Option Val} {fields : Items} {page : List Val}
      (hpage : answer ⟨"list_objects_v2", listKwargs bucket listPrefix token⟩ = .ok (.dict fields))
      (hcontents : fields.get "Contents" (.list []) = .list page)
      (hlast : (fields.get "IsTruncated").truthy = false) : Listing answer bucket listPrefix token [page]
  | more {token : Option Val} {fields : Items} {page : List Val} {next : Val} {pages : List (List Val)}
      (hpage : answer ⟨"list_objects_v2", listKwargs bucket listPrefix token⟩ = .ok (.dict fields))
      (hcontents : fields.get "Contents" (.list []) = .list page)
      (hmore : (fields.get "IsTruncated").truthy = true)
      (hnext : fields.lookup "NextContinuationToken" = some next)
      (hrest : Listing answer bucket listPrefix (some next) pages) :
      Listing answer bucket listPrefix token (page :: pages)

/-- What a program comes to with an S3 that stays as it is. -/
abbrev outcomeOf (answer : S3Call → Except Exc Val) {α : Type} (p : S3 α) : Except Exc α :=
  (Prog.run (fun (_ : Unit) call => (answer call, ())) () p).outcome

section

variable {answer : S3Call → Except Exc Val} {bucket listPrefix : String}

theorem listKwargs_set (token : Option Val) (next : Val) :
    (listKwargs bucket listPrefix token).set "ContinuationToken" next =
      listKwargs bucket listPrefix (some next) := by
  cases token <;> rfl

/-- One page is read, and the loop goes on from it. -/
theorem outcomeOf_bind_page {fields : Items} {page : List Val} {token : Option Val} {α : Type}
    {f : Items × List Val → S3 α}
    (hpage : answer ⟨"list_objects_v2", listKwargs bucket listPrefix token⟩ = .ok (.dict fields))
    (hcontents : fields.get "Contents" (.list []) = .list page) :
    outcomeOf answer (S3.call ⟨"list_objects_v2", listKwargs bucket listPrefix token⟩ >>= fun response =>
      S3.ofExcept (TenantScopedS3.readListing response) >>= f) =
        outcomeOf answer (f (fields, page)) := by
  have hcall : outcomeOf answer (S3.call ⟨"list_objects_v2", listKwargs bucket listPrefix token⟩) =
      .ok (.dict fields) := by
    simp only [outcomeOf, S3.call, Prog.run, hpage]
    rfl
  have hread : TenantScopedS3.readListing (.dict fields) = .ok (fields, page) := by
    simp only [TenantScopedS3.readListing, hcontents]
  rw [outcomeOf, (Prog.run_bind_ok hcall).1, hread]
  rfl

/-- **The loop over the pages** reads all of a listing. -/
theorem outcomeOf_listPages {token : Option Val} {pages : List (List Val)}
    (h : Listing answer bucket listPrefix token pages) {fuel : ℕ} (hfuel : pages.length ≤ fuel) :
    outcomeOf answer (TenantScopedS3.listPages fuel (listKwargs bucket listPrefix token)) =
      .ok pages.flatten := by
  induction h generalizing fuel with
  | last hpage hcontents hlast =>
    obtain ⟨fuel, rfl⟩ : ∃ n, fuel = n + 1 := ⟨fuel - 1, (Nat.sub_add_cancel hfuel).symm⟩
    rw [TenantScopedS3.listPages, outcomeOf_bind_page hpage hcontents]
    simp only [hlast, if_true, List.flatten_cons, List.flatten_nil, List.append_nil]
    rfl
  | more hpage hcontents hmore hnext hrest ih =>
    rw [List.length_cons] at hfuel
    obtain ⟨fuel, rfl⟩ : ∃ n, fuel = n + 1 :=
      ⟨fuel - 1, (Nat.sub_add_cancel (le_trans (Nat.le_add_left _ _) hfuel)).symm⟩
    have hhas : Items.has _ "NextContinuationToken" = true := congrArg Option.isSome hnext
    have hget : Items.get _ "NextContinuationToken" = _ := congrArg (·.getD Val.none) hnext
    rw [TenantScopedS3.listPages, outcomeOf_bind_page hpage hcontents]
    simp only [hmore, hhas, hget, Option.getD_some, listKwargs_set, Bool.true_eq_false, if_false]
    rw [outcomeOf, (Prog.run_bind_ok (ih (Nat.le_of_succ_le_succ hfuel))).1]
    rfl

/-- **A listing is what is under its prefix**: each object once, and no other. -/
theorem listObjects_exact {tenantId subPrefix : String} {objects : List Val} {pages : List (List Val)}
    (hkeys : (objects.map keyOf).Nodup)
    (hlisting : Listing answer bucket (TenantScopedS3.ownPrefix tenantId ++ subPrefix) none pages)
    (hcontent : pages.flatten.Perm (objects.filter fun object =>
      Py.startsWith (keyOf object) (TenantScopedS3.ownPrefix tenantId ++ subPrefix)))
    {fuel : ℕ} (hfuel : pages.length ≤ fuel) :
    ∃ items, outcomeOf answer (TenantScopedS3.listObjects fuel tenantId bucket subPrefix) = .ok items ∧
      (items.map keyOf).Nodup ∧ ∀ key, key ∈ items.map keyOf ↔ key ∈ objects.map keyOf ∧
        ∃ rest, key = TenantScopedS3.ownPrefix tenantId ++ rest ∧
          Py.startsWith rest subPrefix = true := by
  refine ⟨pages.flatten, outcomeOf_listPages hlisting hfuel, ?_, ?_⟩
  · rw [(hcontent.map keyOf).nodup_iff]
    exact hkeys.sublist (List.filter_sublist.map keyOf)
  · intro key
    have hunder : Py.startsWith key (TenantScopedS3.ownPrefix tenantId ++ subPrefix) = true ↔
        ∃ rest, key = TenantScopedS3.ownPrefix tenantId ++ rest ∧
          Py.startsWith rest subPrefix = true := by
      simp only [Py.startsWith_iff]
      constructor
      · rintro ⟨rest, rfl⟩
        exact ⟨subPrefix ++ rest, String.append_assoc .., rest, rfl⟩
      · rintro ⟨_, rfl, rest, rfl⟩
        exact ⟨rest, (String.append_assoc ..).symm⟩
    rw [(hcontent.map keyOf).mem_iff, ← hunder]
    simp only [List.mem_map, List.mem_filter]
    constructor
    · rintro ⟨object, ⟨hmem, hpre⟩, rfl⟩
      exact ⟨⟨object, hmem, rfl⟩, hpre⟩
    · rintro ⟨⟨object, hmem, rfl⟩, hpre⟩
      exact ⟨object, ⟨hmem, hpre⟩, rfl⟩

end

end A5cCell.DataAccess
