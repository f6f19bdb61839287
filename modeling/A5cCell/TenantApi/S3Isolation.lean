import A5cCell.DataAccess.ScopedS3
import A5cCell.TenantApi.Requests

/-!
# The objects of a tenant

The ids that `canonical_tenant_id` gives have no slash, so the prefixes of two tenants' objects do not
overlap, also where one id begins with the other.
-/

namespace A5cCell.TenantApi

open Py (Val Items)
open DataAccess

theorem slash_not_mem_of_canonicalTenantId {value : Val} {allowReserved : Bool} {tenantId : String}
    (h : canonicalTenantId value allowReserved = .ok tenantId) : '/' ∉ tenantId.toList := by
  intro hslash
  exact absurd (isTenantIdChar_of_canonicalTenantId h '/' hslash) (by decide)

/-- A tenant's client refuses the keys that another tenant's takes, and lists the tenant's own objects,
    each once. -/
theorem s3_prefix_isolation {value value' : Val} {allowReserved allowReserved' : Bool} {a b : String}
    (ha : canonicalTenantId value allowReserved = .ok a)
    (hb : canonicalTenantId value' allowReserved' = .ok b) (hne : a ≠ b) :
    (∀ key, s3ValidateKey a key = .ok () → ∀ bucket (op : ObjectOperation),
      ∃ target, s3ValidateKey b key = .error (.tenantAccessViolation target b key) ∧
        op.run b bucket key = .raise (.tenantAccessViolation target b key)) ∧
    ∀ (answer : S3Call → Except Exc Val) (bucket subPrefix : String) (objects : List Val)
      (pages : List (List Val)), (objects.map keyOf).Nodup →
      Listing answer bucket (TenantScopedS3.ownPrefix a ++ subPrefix) none pages →
      pages.flatten.Perm (objects.filter fun object =>
        Py.startsWith (keyOf object) (TenantScopedS3.ownPrefix a ++ subPrefix)) →
      ∀ fuel, pages.length ≤ fuel → ∃ items,
        outcomeOf answer (TenantScopedS3.listObjects fuel a bucket subPrefix) = .ok items ∧
        (items.map keyOf).Nodup ∧ ∀ key, key ∈ items.map keyOf ↔ key ∈ objects.map keyOf ∧
          ∃ rest, key = TenantScopedS3.ownPrefix a ++ rest ∧ Py.startsWith rest subPrefix = true := by
  constructor
  · intro key hkey bucket op
    refine op.run_refused fun hkey' => hne ?_
    exact s3ValidateKey_unique (slash_not_mem_of_canonicalTenantId ha)
      (slash_not_mem_of_canonicalTenantId hb) hkey hkey'
  · intro answer bucket subPrefix objects pages hkeys hlisting hcontent fuel hfuel
    exact listObjects_exact hkeys hlisting hcontent hfuel

/-- An object with this key. -/
def objectNamed (key : String) : Val := .dict [("Key", .str key)]

/-- A bucket with an object of each of two tenants, listed on two pages of which the first is empty. -/
def twoTenants (call : S3Call) : Except Exc Val :=
  if call.kwargs.has "ContinuationToken" then
    .ok (.dict [("Contents", .list [objectNamed "tenants/acme/report"])])
  else .ok (.dict [("IsTruncated", .bool true), ("NextContinuationToken", .str "next")])

theorem s3_prefix_isolation_acme :
    (∃ target, s3ValidateKey "acme-eu" "tenants/acme/report" =
      .error (.tenantAccessViolation target "acme-eu" "tenants/acme/report") ∧
        ObjectOperation.get.run "acme-eu" "bucket" "tenants/acme/report" =
          .raise (.tenantAccessViolation target "acme-eu" "tenants/acme/report")) ∧
    ∃ items, outcomeOf twoTenants (TenantScopedS3.listObjects 2 "acme" "bucket" "re") = .ok items ∧
      (items.map keyOf).Nodup ∧ ∀ key, key ∈ items.map keyOf ↔
        key ∈ [objectNamed "tenants/acme/report", objectNamed "tenants/acme-eu/report"].map keyOf ∧
          ∃ rest, key = TenantScopedS3.ownPrefix "acme" ++ rest ∧ Py.startsWith rest "re" = true := by
  have hacme : canonicalTenantId (.str "acme") = .ok "acme" := rfl
  have hacmeEu : canonicalTenantId (.str "acme-eu") = .ok "acme-eu" := rfl
  obtain ⟨hrefused, hlisted⟩ := s3_prefix_isolation hacme hacmeEu (by decide)
  refine ⟨hrefused _ (by decide) "bucket" .get, ?_⟩
  refine hlisted twoTenants "bucket" "re" _ [[], [objectNamed "tenants/acme/report"]] (by decide) ?_ ?_
    2 le_rfl
  · exact .more rfl rfl rfl rfl (.last rfl rfl rfl)
  · exact List.Perm.refl _

end A5cCell.TenantApi
