import Mathlib.Logic.Basic

/-!
# `reloadableCredentials`: waiting for a reload

`WaitForCertificateReload(ctx)` and `WaitForCertPoolReload(ctx)` wait for the next reload of the
certificate loader and of the certificate pool loader of a `reloadableCredentials`. Either loader
may be missing; the wait then fails at once with its own error. Otherwise it is the loader's
`WaitForReload(ctx)`, which is not part of these sources: it is a parameter, and an error is
modelled by its text, `none` being `nil`.

The two methods differ only in the loader they read and the text of their error, so they are one
definition, `waitForReload`, applied to the values of each.
-/

namespace SpreedSignaling

/-- `reloadableCredentials`: the certificate loader and the certificate pool loader, each
`nil` when not configured. -/
structure ReloadableCredentials (Ld Pl : Type) where
  loader : Option Ld
  pool : Option Pl

/-- The body of both waits: the error `missing` when the loader is `nil`, else the loader's
`WaitForReload(ctx)`. -/
def waitForReload {P Ctx : Type} (missing : String) (waitForReload : P → Ctx → Option String)
    (loader : Option P) (ctx : Ctx) : Option String :=
  match loader with
  | none => some missing
  | some loader => waitForReload loader ctx

/-- A wait fails with `missing` exactly when its loader is missing, as long as the loader's own
wait never fails with that text: the error tells the caller which loader is not configured. -/
theorem waitForReload_eq_missing_iff {P Ctx : Type} {missing : String}
    {wait : P → Ctx → Option String} (hwait : ∀ p ctx, wait p ctx ≠ some missing)
    (loader : Option P) (ctx : Ctx) :
    waitForReload missing wait loader ctx = some missing ↔ loader = none := by
  cases loader <;> simp [waitForReload, hwait]

namespace ReloadableCredentials

variable {Ld Pl Ctx : Type}

/-- `WaitForCertificateReload`. -/
def waitForCertificateReload (loaderWaitForReload : Ld → Ctx → Option String)
    (c : ReloadableCredentials Ld Pl) (ctx : Ctx) : Option String :=
  SpreedSignaling.waitForReload "no certificate loaded" loaderWaitForReload c.loader ctx

/-- `WaitForCertPoolReload`. -/
def waitForCertPoolReload (poolWaitForReload : Pl → Ctx → Option String)
    (c : ReloadableCredentials Ld Pl) (ctx : Ctx) : Option String :=
  SpreedSignaling.waitForReload "no certificate pool loaded" poolWaitForReload c.pool ctx

end ReloadableCredentials

end SpreedSignaling
