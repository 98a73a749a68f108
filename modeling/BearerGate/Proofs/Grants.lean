import Mathlib.Data.List.Forall2
import BearerGate.Proofs.CommandLine
import BearerGate.Proofs.Service.Setup
import BearerGate.Service.TokenRequest

/-!
# Strict and Lenient Grants

Names of roles are read in three places. A request for a token and the command line are strict: they
take a list only if each of its texts names a role, and report the first that does not. A verifier
is lenient: it leaves such texts out. The three agree on what a text names, so a list that is taken
is decoded without loss, and one that is refused is refused for the first text that decoding drops.
What has been decoded is decoded to itself again.

## Main results

* `Role.resolve_eq_some_iff_isNamedBy`: what a text resolves to, said without resolving it.
* `Role.reports_resolveAll`, `Role.resolveAll_eq_ok_iff`: the two outcomes of strict reading.
* `Role.decodesTo_filterMap`: the outcome of lenient reading.
* `Role.grants_agree`: the three readings of a list.
-/

namespace BearerGate

namespace Role

variable {texts names : List String} {text name : String} {grants : NameSet}

/-! ### Names -/

/-- A role **is named by a text** that, trimmed, with hyphens for its underscores and then in lower
case, is the canonical name. -/
def IsNamedBy (role : Role) (text : String) : Prop :=
  ((Text.trim text.toList).map fun c => if c = '_' then '-' else c).map Char.toLower =
    role.name.toList

/-- The lower-case form of a letter of ASCII is the usual one. -/
theorem lower_eq_toLower (c : Char) : lower c = c.toLower := by
  rw [lower]
  unfold Char.toLower
  by_cases h : 'A' ≤ c ∧ c ≤ 'Z'
  · have hrange : c.val ≥ 'A'.val ∧ c.val ≤ 'Z'.val := h
    rw [if_pos h, dif_pos hrange, ← Char.toNat_inj]
    have hlow : 65 ≤ c.toNat := UInt32.le_iff_toNat_le.mp h.1
    have hhigh : c.toNat ≤ 90 := UInt32.le_iff_toNat_le.mp h.2
    have hupper : (c.val + ('a'.val - 'A'.val)).toNat = c.toNat + 32 := by
      have hstep : 'a'.val - 'A'.val = 32 := by decide
      have hword : (32 : UInt32).toNat = 32 := rfl
      rw [hstep, UInt32.toNat_add, hword]
      exact Nat.mod_eq_of_lt (by rw [← Char.toNat]; omega)
    rw [Utf8.toNat_charOfNat (by omega)]
    exact hupper.symm
  · have hrange : ¬(c.val ≥ 'A'.val ∧ c.val ≤ 'Z'.val) := h
    rw [if_neg h, dif_neg hrange]

/-- A text counts as the name of a role exactly when it names it. -/
theorem normalize_eq_name_iff {role : Role} :
    normalize text = role.name ↔ role.IsNamedBy text := by
  have hfold : foldChar = Char.toLower ∘ fun c => if c = '_' then '-' else c := by
    funext c
    rw [foldChar, Function.comp_apply]
    split
    · rfl
    · exact lower_eq_toLower c
  rw [normalize, IsNamedBy, List.map_map, ← hfold, ← String.toList_inj, String.toList_ofList]

/-- A text **resolves to the name of the role that it names**, and to nothing else. -/
theorem resolve_eq_some_iff_isNamedBy :
    resolve text = some name ↔ ∃ role : Role, role.IsNamedBy text ∧ name = role.name := by
  simp only [resolve_eq_some_iff, normalize_eq_name_iff]

/-- What a text resolves to **resolves to itself**. -/
theorem resolve_of_resolve (h : resolve text = some name) : resolve name = some name := by
  obtain ⟨role, -, rfl⟩ := resolve_eq_some_iff.mp h
  exact resolve_name role

/-! ### Strict reading -/

/-- A list is **refused** for the first of its texts that does not resolve, and only for that. -/
theorem reports_resolveAll (texts : List String) :
    Reports (fun text => resolve text = none) texts (resolveAll texts) := by
  intro text
  induction texts with
  | nil => simp [resolveAll, not_isFirst_nil]
  | cons first texts ih =>
      rw [isFirst_cons_iff, ← ih, resolveAll]
      cases resolve first with
      | none => simp [eq_comm]
      | some name => cases resolveAll texts <;> simp [Except.map]

/-- A list is **taken** when each of its texts resolves, as the names in the order of the texts. -/
theorem resolveAll_eq_ok_iff : resolveAll texts = .ok names ↔
    List.Forall₂ (fun text name => resolve text = some name) texts names := by
  induction texts generalizing names with
  | nil => simp [resolveAll, eq_comm]
  | cons first texts ih =>
      rw [resolveAll, List.forall₂_cons_left_iff]
      cases resolve first with
      | none => simp
      | some name =>
          simp only [map_eq_ok_iff, ih, Option.some.injEq]
          constructor
          · rintro ⟨more, hmore, rfl⟩
            exact ⟨name, more, rfl, hmore, rfl⟩
          · rintro ⟨_, more, rfl, hmore, rfl⟩
            exact ⟨more, hmore, rfl⟩

/-- Leaving out nothing, lenient reading gives what strict reading gives. -/
theorem filterMap_resolve_of_resolveAll (h : resolveAll texts = .ok names) :
    texts.filterMap resolve = names := by
  rw [resolveAll_eq_ok_iff] at h
  induction h with
  | nil => rfl
  | cons hname _ ih => rw [List.filterMap_cons_some hname, ih]

/-! ### Lenient reading -/

/-- A list of texts **decodes to a set** of names: the value that holds the list grants the set, and
whoever a verifier of roles accepts with that value has been granted it. -/
structure DecodesTo (texts : List String) (grants : NameSet) : Prop where
  value : Claims.grantsOf resolve (.list (texts.map .text)) = .ok grants
  token : ∀ (v : Verifier) (now : Second) (raw : String) (claims : Claims) (who : Identity),
    v.resolve = resolve → v.Accepts now raw claims who →
    claims.grants = some (.list (texts.map .text)) → who.grants = grants

/-- **Every list decodes** to a set: that of what its texts resolve to. -/
theorem decodesTo_filterMap (texts : List String) :
    DecodesTo texts (NameSet.ofList (texts.filterMap resolve)) := by
  have hvalue : Claims.grantsOf resolve (.list (texts.map .text)) =
      .ok (NameSet.ofList (texts.filterMap resolve)) :=
    Claims.grantsOf_eq_ok_iff.mpr ⟨texts, rfl, rfl⟩
  refine ⟨hvalue, fun v now raw claims who hresolve haccepts hclaim => ?_⟩
  obtain ⟨-, -, ⟨value, hgrants, hdecoded⟩, -⟩ :=
    Claims.identity_eq_ok_iff.mp haccepts.identity
  rw [hclaim, Option.some.injEq] at hgrants
  rw [← hgrants, hresolve, hvalue, Except.ok.injEq] at hdecoded
  exact hdecoded.symm

/-- What a list decodes to is **what its texts name**. -/
theorem DecodesTo.mem_iff (h : DecodesTo texts grants) :
    name ∈ grants ↔ ∃ text ∈ texts, ∃ role : Role, role.IsNamedBy text ∧ name = role.name := by
  have heq := h.value.symm.trans (decodesTo_filterMap texts).value
  rw [Except.ok.injEq] at heq
  simp only [heq, NameSet.mem_ofList, List.mem_filterMap, resolve_eq_some_iff_isNamedBy]

/-- A set of names that resolve to themselves is **decoded to itself** from the payload that is
written for whoever has been granted it. -/
theorem decodesTo_render {who : Identity} (issuedAt expires : Int64)
    (hgrants : ∀ name ∈ who.grants, resolve name = some name) :
    ∃ claims names, Claims.read (Utf8.encode (Claims.render who issuedAt expires)) = .ok claims ∧
      claims.grants = some (.list (names.map .text)) ∧ DecodesTo names who.grants := by
  refine ⟨_, who.grants.toList, Claims.read_render who issuedAt expires, rfl, ?_⟩
  have hself : (who.resolved resolve).grants = who.grants :=
    congrArg Identity.grants (Identity.resolved_eq_self hgrants)
  have hdecodes : DecodesTo who.grants.toList (who.resolved resolve).grants :=
    decodesTo_filterMap who.grants.toList
  rwa [hself] at hdecodes

/-! ### Agreement -/

/-- **Strict and lenient readers agree.** A text resolves exactly to the name of the role that it
names, and that name resolves to itself. Every list decodes to a set, that of the names of the roles
that its texts name, and there are two cases.

* All texts of the list are kept. Then a request with the list and a command line with it ask for
  the names in the order of the texts, and for the set that the list decodes to.
* Some text is dropped. Then both are refused, for the first text that is.

In both cases the set is decoded to itself from the payload that is written for whoever has been
granted it. -/
theorem grants_agree (texts : List String) :
    (∀ text name, resolve text = some name ↔
      ∃ role : Role, role.IsNamedBy text ∧ name = role.name) ∧
    (∀ text name, resolve text = some name → resolve name = some name) ∧
    ∃ grants, DecodesTo texts grants ∧
      (∀ name, name ∈ grants ↔
        ∃ text ∈ texts, ∃ role : Role, role.IsNamedBy text ∧ name = role.name) ∧
      ((∃ names, List.Forall₂ (fun text name => resolve text = some name) texts names ∧
          grants = NameSet.ofList names ∧
          (∀ request : TokenRequest, request.grants = texts → request.grantNames = .ok names) ∧
          ∀ o : CommandLine.Options, o.grants = texts →
            CommandLine.identityOf o = .ok ⟨o.id, o.username, grants⟩) ∨
        ∃ text, IsFirst (fun text => resolve text = none) texts text ∧
          (∀ request : TokenRequest, request.grants = texts →
            request.grantNames = .error ("unknown grant: " ++ text)) ∧
          (∀ o : CommandLine.Options, o.grants = texts →
            CommandLine.identityOf o = .error (.unknownGrant text)) ∧
          ∀ said, ((CommandLine.Problem.unknownGrant text).chain said).head? =
            some ("unknown grant: " ++ text)) ∧
      ∀ (who : Identity) (issuedAt expires : Int64), who.grants = grants →
        ∃ claims names,
          Claims.read (Utf8.encode (Claims.render who issuedAt expires)) = .ok claims ∧
          claims.grants = some (.list (names.map .text)) ∧ DecodesTo names grants := by
  have hdecodes := decodesTo_filterMap texts
  refine ⟨fun _ _ => resolve_eq_some_iff_isNamedBy, fun _ _ => resolve_of_resolve, _, hdecodes,
    fun _ => hdecodes.mem_iff, ?_, ?_⟩
  · cases hall : resolveAll texts with
    | ok names =>
        refine Or.inl ⟨names, resolveAll_eq_ok_iff.mp hall,
          by rw [filterMap_resolve_of_resolveAll hall], ?_, ?_⟩
        · rintro request rfl
          rw [TokenRequest.grantNames, hall]
          rfl
        · rintro o rfl
          rw [CommandLine.identityOf, hall, filterMap_resolve_of_resolveAll hall]
    | error text =>
        refine Or.inr ⟨text, (reports_resolveAll texts text).mp hall, ?_, ?_, fun _ => rfl⟩
        · rintro request rfl
          rw [TokenRequest.grantNames, hall]
          rfl
        · rintro o rfl
          rw [CommandLine.identityOf, hall]
  · intro who issuedAt expires hgrants
    have hself : ∀ name ∈ who.grants, resolve name = some name := by
      intro name hname
      rw [hgrants, NameSet.mem_ofList, List.mem_filterMap] at hname
      obtain ⟨text, -, htext⟩ := hname
      exact resolve_of_resolve htext
    rw [← hgrants]
    exact decodesTo_render issuedAt expires hself

/-- A list that names two roles and a stranger between them is refused for the stranger; a token
that carries it is accepted, and grants the roles. -/
theorem grants_agree_but_for_a_stranger :
    ∃ raw claims who, sampleVerifier.Accepts 100 raw claims who ∧
      claims.grants = some (.list (["ROLE_Admin ", "root", "role-user"].map .text)) ∧
      who.grants = NameSet.ofList ["role-admin", "role-user"] ∧
      (⟨7, "ada", ["ROLE_Admin ", "root", "role-user"]⟩ : TokenRequest).grantNames =
        .error "unknown grant: root" := by
  obtain ⟨raw, haccepts⟩ := @exists_accepts_sampleVerifier "7" "ada"
    ["ROLE_Admin ", "root", "role-user"] 0 9000000000 (by decide +kernel) (by decide)
  obtain ⟨-, -, grants, hdecodes, -, hcases, -⟩ := grants_agree ["ROLE_Admin ", "root", "role-user"]
  have hidentity := @Claims.identity_eq_ok_iff ⟨some "7", some "ada",
    some (.list (["ROLE_Admin ", "root", "role-user"].map .text)), some 0, some 9000000000⟩
      Role.resolve 100 0 ⟨7, "ada", grants⟩ |>.mpr
        ⟨⟨_, rfl, rfl⟩, rfl, ⟨_, rfl, hdecodes.value⟩, ⟨0, rfl, by decide⟩, rfl⟩
  have hset : grants = NameSet.ofList ["role-admin", "role-user"] := by
    have hvalue := (decodesTo_filterMap ["ROLE_Admin ", "root", "role-user"]).value
    rw [hdecodes.value, Except.ok.injEq] at hvalue
    rw [hvalue]
    decide +kernel
  refine ⟨raw, _, _, haccepts 100 _ (by decide) hidentity, rfl, hset, ?_⟩
  have hstranger : resolve "root" = none := by decide
  have hadmin : resolve "ROLE_Admin " = some "role-admin" := by decide
  rcases hcases with ⟨names, hnames, -⟩ | ⟨text, hfirst, hrequest, -⟩
  · rw [← resolveAll_eq_ok_iff, resolveAll, hadmin] at hnames
    obtain ⟨more, hmore, -⟩ := map_eq_ok_iff.mp hnames
    rw [resolveAll, hstranger] at hmore
    cases hmore
  · obtain rfl : text = "root" := by simpa [isFirst_cons_iff, hadmin, hstranger] using hfirst
    exact hrequest _ rfl

end Role

end BearerGate
