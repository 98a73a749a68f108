import BearerGate.CommandLine
import BearerGate.Proofs.Service.Setup

/-!
# The Tool and the Verifier

What the tool prints is made of four things: the number, the name and the roles that the options
name, and a token for them. Every choice of options can be asked for by arguments, so nothing is
known of the name but that it is a text.

A verifier with the matching key reads from the token just what is printed beside it, in the second
in which it is made and with whatever lifetime, but on one condition: it looks only at tokens of at
most 8192 bytes, and the tool does not keep that limit. Names of up to 256 bytes are short enough
with every key and all roles; names of 6144 bytes and more are too long with any.

## Main results

* `CommandLine.read_argumentsFor`: all options can be asked for.
* `CommandLine.issue_eq_ok_iff`: what is printed, and when.
* `CommandLine.printed_tokens_verify`: what a verifier makes of the printed token.
* `CommandLine.not_every_printed_token_verifies`: a token that no verifier accepts.
-/

namespace BearerGate

namespace CommandLine

variable {readFile : String → Except String String} {now : Second} {draw : Nat}
  {args : List String} {o : Options} {issuer : Issuer} {who : Identity} {text : String}

/-! ### Arguments -/

/-- An option and its value as one argument. -/
def valued (which : ValueOption) (value : String) : String :=
  String.ofList ('-' :: '-' :: (which.name.toList ++ '=' :: value.toList))

/-- An argument with a value is **taken as it is meant**, whatever the value. -/
theorem argument_valued (which : ValueOption) (value : String) :
    argument (valued which value) = .option which (some value) := by
  have hname : ∀ c ∈ which.name.toList, decide (c ≠ '=') = true :=
    List.all_eq_true.mp (by cases which <;> decide)
  have htake : (which.name.toList ++ '=' :: value.toList).takeWhile (fun c => c ≠ '=') =
      which.name.toList := by
    rw [List.takeWhile_append_of_pos hname, List.takeWhile_cons_of_neg (by simp), List.append_nil]
  have hdrop : (which.name.toList ++ '=' :: value.toList).dropWhile (fun c => c ≠ '=') =
      '=' :: value.toList := by
    rw [List.dropWhile_append_of_pos hname, List.dropWhile_cons_of_neg (by simp)]
  have hfind : (ValueOption.all.find? fun other => other.name = which.name) = some which := by
    cases which <;> rfl
  have hlong : longArgument (which.name.toList ++ '=' :: value.toList) =
      .option which (some value) := by
    rw [longArgument, htake, hdrop, String.ofList_toList, hfind]
    dsimp only
    rw [String.ofList_toList]
  rw [argument, valued, String.toList_ofList]
  cases hcs : which.name.toList ++ '=' :: value.toList with
  | nil => simp at hcs
  | cons c cs =>
      rw [hcs] at hlong
      exact hlong

/-- An option with a value is put into the options. -/
theorem readFrom_valued {d put : Draft} {which : ValueOption} {value : String}
    (h : d.put which value = .ok put) (rest : List String) :
    readFrom d (valued which value :: rest) = readFrom put rest := by
  rw [readFrom.eq_def]
  simp only [argument_valued, h]

/-- Grants are gathered, one after the other. -/
theorem readFrom_grants (grants : List String) (d : Draft) (rest : List String) :
    readFrom d (grants.map (valued .grant) ++ rest) =
      readFrom { d with grants := d.grants ++ grants } rest := by
  induction grants generalizing d with
  | nil => rw [List.map_nil, List.nil_append, List.append_nil]
  | cons grant grants ih =>
      rw [List.map_cons, List.cons_append, readFrom_valued rfl, ih, List.append_assoc]
      rfl

/-- Arguments that **ask for options**. -/
def argumentsFor (o : Options) : List String :=
  valued .keyPath o.keyPath :: valued .algorithm o.algorithm ::
    valued .id (String.ofList (Text.writeInt64 o.id)) :: valued .username o.username ::
    valued .lifetime (String.ofList (Text.writeNat o.lifetime)) ::
    (o.grants.map (valued .grant) ++ if o.quiet then ["--quiet"] else [])

/-- **All options can be asked for**, with a path that is not empty and a lifetime of 64 bits. -/
theorem read_argumentsFor (hpath : o.keyPath ≠ "") (hlifetime : o.lifetime < 2 ^ 64) :
    read (argumentsFor o) = .ok (.issue o) := by
  have hid : Text.readInt64 (String.ofList (Text.writeInt64 o.id)).toList = some o.id := by
    rw [String.toList_ofList, Text.readInt64_writeInt64]
  have hseconds : Text.readUnsigned 64 (String.ofList (Text.writeNat o.lifetime)).toList =
      some o.lifetime := by
    rw [String.toList_ofList, Text.readUnsigned_writeNat hlifetime]
  have hkeyPath : Draft.empty.put .keyPath o.keyPath =
      .ok { Draft.empty with keyPath := some o.keyPath } := by
    rw [Draft.put, if_neg hpath]
    rfl
  rw [read, argumentsFor, readFrom_valued hkeyPath, readFrom_valued rfl,
    readFrom_valued (by rw [Draft.put, hid]; rfl), readFrom_valued rfl,
    readFrom_valued (by rw [Draft.put, hseconds]; rfl), readFrom_grants]
  obtain ⟨keyPath, algorithm, id, username, grants, lifetime, quiet⟩ := o
  cases quiet with
  | true => rfl
  | false => rfl

/-! ### What is printed -/

/-- An issuer and an identity that are **what options ask for**: the key of the file, the algorithm
and the lifetime that they name; and the number, the name and the roles that they name. -/
structure IsAskedFor (readFile : String → Except String String) (o : Options) (issuer : Issuer)
    (who : Identity) : Prop where
  algorithm : Algorithm.ofName? o.algorithm = some issuer.algorithm
  key : ∃ material, readFile o.keyPath = .ok material ∧
    SigningKey.load issuer.algorithm material = .ok issuer.key
  lifetime : issuer.lifetime = o.lifetime
  id : who.id = o.id
  username : who.username = o.username
  known : ∀ text ∈ o.grants, ∃ name, Role.resolve text = some name
  grants : ∀ name, name ∈ who.grants ↔ ∃ text ∈ o.grants, Role.resolve text = some name

/-- The issuer of options has the algorithm and the lifetime that they name, and the key. -/
theorem issuerOf_eq_ok_iff {material : String} :
    issuerOf o material = .ok issuer ↔ Algorithm.ofName? o.algorithm = some issuer.algorithm ∧
      SigningKey.load issuer.algorithm material = .ok issuer.key ∧
      issuer.lifetime = o.lifetime := by
  rw [issuerOf]
  cases Algorithm.ofName? o.algorithm with
  | none => simp
  | some algorithm =>
      simp only [Option.some.injEq, Issuer.load]
      cases hload : SigningKey.load algorithm material with
      | error problem =>
          constructor
          · intro h
            cases h
          · rintro ⟨rfl, hkey, -⟩
            rw [hload] at hkey
            cases hkey
      | ok key =>
          constructor
          · intro h
            cases h
            exact ⟨rfl, hload, rfl⟩
          · rintro ⟨rfl, hkey, hlifetime⟩
            rw [hload, Except.ok.injEq] at hkey
            subst hkey
            rw [← hlifetime]
            rfl

/-- The identity of options has the number, the name and the roles that they name. -/
theorem identityOf_eq_ok_iff :
    identityOf o = .ok who ↔ who.id = o.id ∧ who.username = o.username ∧
      (∀ text ∈ o.grants, ∃ name, Role.resolve text = some name) ∧
      ∀ name, name ∈ who.grants ↔ ∃ text ∈ o.grants, Role.resolve text = some name := by
  rw [identityOf, ← Role.exists_resolveAll_iff]
  cases hall : Role.resolveAll o.grants with
  | error text => simp
  | ok names =>
      have hgrants : ∀ name, name ∈ NameSet.ofList names ↔
          ∃ text ∈ o.grants, Role.resolve text = some name := by
        intro name
        rw [NameSet.mem_ofList, Role.mem_of_resolveAll hall]
      constructor
      · intro h
        cases h
        exact ⟨rfl, rfl, ⟨names, rfl⟩, hgrants⟩
      · rintro ⟨hid, husername, -, hmem⟩
        have hset : NameSet.ofList names = who.grants :=
          NameSet.ext_mem fun name => (hgrants name).trans (hmem name).symm
        dsimp only
        rw [hset, ← hid, ← husername]

/-- Something is **printed** for options exactly when there are an issuer and an identity as they
ask for, and the one issues a token for the other; and then it is the report of these. -/
theorem issue_eq_ok_iff : issue readFile now draw o = .ok text ↔
    ∃ issuer who token, IsAskedFor readFile o issuer who ∧ issuer.issue now draw who = .ok token ∧
      text = report o.quiet issuer who token := by
  rw [issue]
  simp only [bind_eq_ok_iff, mapError_eq_ok_iff, issuerOf_eq_ok_iff, identityOf_eq_ok_iff]
  constructor
  · rintro ⟨material, hmaterial, issuer, ⟨halgorithm, hkey, hlifetime⟩, who,
      ⟨hid, husername, hknown, hgrants⟩, token, htoken, htext⟩
    exact ⟨issuer, who, token, ⟨halgorithm, ⟨material, hmaterial, hkey⟩, hlifetime, hid, husername,
      hknown, hgrants⟩, htoken, (Except.ok.inj htext).symm⟩
  · rintro ⟨issuer, who, token, h, htoken, rfl⟩
    obtain ⟨material, hmaterial, hkey⟩ := h.key
    exact ⟨material, hmaterial, issuer, ⟨h.algorithm, hkey, h.lifetime⟩, who,
      ⟨h.id, h.username, h.known, h.grants⟩, token, htoken, rfl⟩

/-- The first line of a text. -/
def firstLine (text : String) : List Char :=
  text.toList.takeWhile fun c => c ≠ '\n'

/-- The token stands **on the first line** of a report, whatever the name is. -/
theorem firstLine_report {token : String} (h : Text.IsVisible token.toList) (quiet : Bool)
    (issuer : Issuer) (who : Identity) :
    firstLine (report quiet issuer who token) =
      (if quiet then [] else "token: ".toList) ++ token.toList := by
  -- The name comes after the first line, so that line breaks in it do not matter.
  have hline : ∀ start : List Char, (∀ c ∈ start, 0x20 ≤ c.toNat) → ∀ rest,
      (start ++ (token.toList ++ '\n' :: rest)).takeWhile (fun c => c ≠ '\n') =
        start ++ token.toList := by
    intro start hstart rest
    have hkept : ∀ c ∈ start ++ token.toList, decide (c ≠ '\n') = true := by
      intro c hc
      have hcontrol : 0x20 ≤ c.toNat := by
        rcases List.mem_append.mp hc with hc | hc
        · exact hstart c hc
        · exact Nat.le_trans (by decide) (h.2 c hc).1
      refine decide_eq_true ?_
      rintro rfl
      exact absurd hcontrol (by decide)
    rw [← List.append_assoc, List.takeWhile_append_of_pos hkept,
      List.takeWhile_cons_of_neg (by simp), List.append_nil]
  have hnewline : "\n".toList = ['\n'] := by decide
  cases quiet with
  | true =>
      have hquiet := hline [] (by simp) []
      rw [firstLine, report, if_pos rfl, String.toList_append, hnewline]
      exact hquiet
  | false =>
      have hlabel : ("token: ".toList.all fun c => 0x20 ≤ c.toNat) = true := by decide
      rw [firstLine, report, if_neg (by decide)]
      simp only [String.toList_append, List.append_assoc, hnewline]
      exact hline "token: ".toList
        (fun c hc => of_decide_eq_true (List.all_eq_true.mp hlabel c hc)) _

/-! ### What becomes of it -/

/-- The tool **hands out** a text for arguments, with a number that was drawn: they ask for a token,
and this is printed. -/
def HandsOut (readFile : String → Except String String) (now : Second) (draw : Nat)
    (args : List String) (text : String) : Prop :=
  ∃ o, read args = .ok (.issue o) ∧ issue readFile now draw o = .ok text

/-- A text **shows** a token as one that options ask for: it is made for an issuer and an identity
as they ask for, and reports what these are, with the token on its first line. -/
structure Shows (readFile : String → Except String String) (now : Second) (draw : Nat)
    (o : Options) (text : String) (issuer : Issuer) (who : Identity) (token : String) : Prop where
  asked : IsAskedFor readFile o issuer who
  issued : issuer.issue now draw who = .ok token
  text_eq : text = report o.quiet issuer who token
  line : firstLine text = (if o.quiet then [] else "token: ".toList) ++ token.toList

/-- A verifier **matches** an issuer: it has the algorithm and the matching key, and knows roles. -/
structure MatchedBy (issuer : Issuer) (v : Verifier) : Prop where
  algorithm : issuer.algorithm = v.algorithm
  key : issuer.key.Matches v.key
  resolve : v.resolve = Role.resolve

/-- Whatever is printed for options **shows a token** as they ask for. -/
theorem exists_shows_of_issue (h : issue readFile now draw o = .ok text) :
    ∃ issuer who token, Shows readFile now draw o text issuer who token := by
  obtain ⟨issuer, who, token, hasked, hissued, htext⟩ := issue_eq_ok_iff.mp h
  refine ⟨issuer, who, token, hasked, hissued, htext, ?_⟩
  rw [htext, firstLine_report (Issuer.isVisible_of_issue hissued)]

namespace Shows

variable {token : String}

/-- All grants that are shown are roles. -/
theorem exists_role (h : Shows readFile now draw o text issuer who token) {grant : String}
    (hgrant : grant ∈ who.grants) : ∃ role : Role, grant = role.name := by
  obtain ⟨written, -, hresolve⟩ := (h.asked.grants grant).mp hgrant
  obtain ⟨role, -, hrole⟩ := Role.resolve_eq_some_iff.mp hresolve
  exact ⟨role, hrole⟩

/-- A verifier that matches **makes of the token what is shown** with it by a clock from its leeway
on, or refuses it because of its size. -/
theorem verify (h : Shows readFile now draw o text issuer who token) {v : Verifier}
    (hv : MatchedBy issuer v) (hleeway : v.leeway ≤ now) :
    v.verify now token =
      if Utf8.size token.toList ≤ 8192 then .ok who else .error (.malformed .oversized) := by
  split
  · next hsize =>
    have hresolve : ∀ grant ∈ who.grants, v.resolve grant = some grant := by
      intro grant hgrant
      obtain ⟨role, rfl⟩ := h.exists_role hgrant
      rw [hv.resolve, Role.resolve_name]
    have hissued : now.toNat ≤ now + v.leeway := Nat.le_add_right _ _
    have hexpires : now ≤ now + issuer.lifetime + v.leeway := by omega
    exact Verifier.verify_of_issue hv.algorithm hv.key h.issued hsize hresolve hleeway hissued
      hexpires
  · next hsize =>
    have hlong : Verifier.maxSize < Utf8.size token.toList := Nat.lt_of_not_le hsize
    rw [Verifier.verify]
    rw [(Issuer.isVisible_of_issue h.issued).isWord.isBlankText_eq, if_neg (by decide),
      if_pos hlong]

/-- With a name of at most 256 bytes the token is short enough. -/
theorem size_le (h : Shows readFile now draw o text issuer who token)
    (hname : Utf8.size o.username.toList ≤ 256) : Utf8.size token.toList ≤ 8192 := by
  rw [← h.asked.username] at hname
  exact Issuer.size_le_of_issue h.issued hname fun grant => h.exists_role

/-- With a name of 6144 bytes or more it is too long. -/
theorem lt_size (h : Shows readFile now draw o text issuer who token)
    (hname : 6144 ≤ Utf8.size o.username.toList) : 8192 < Utf8.size token.toList := by
  rw [← h.asked.username] at hname
  exact Issuer.lt_size_of_issue h.issued hname

end Shows

/-- **Printed tokens verify** if they are short enough. Whatever the tool hands out, for whichever
arguments, files, time and number drawn, shows a token; and whatever verifier matches, with whatever
leeway up to that time, makes of the token, in the second in which it is made, the number, the name
and the roles that are shown with it, or refuses it because it has more than 8192 bytes. The latter
is never so with a name of at most 256 bytes, and always so with one of 6144 bytes or more. -/
theorem printed_tokens_verify (h : HandsOut readFile now draw args text) :
    ∃ o issuer who token, read args = .ok (.issue o) ∧
      Shows readFile now draw o text issuer who token ∧
      (∀ v, MatchedBy issuer v → v.leeway ≤ now → v.verify now token =
        if Utf8.size token.toList ≤ 8192 then .ok who else .error (.malformed .oversized)) ∧
      (Utf8.size o.username.toList ≤ 256 → Utf8.size token.toList ≤ 8192) ∧
      (6144 ≤ Utf8.size o.username.toList → 8192 < Utf8.size token.toList) := by
  obtain ⟨o, hread, hprinted⟩ := h
  obtain ⟨issuer, who, token, hshows⟩ := exists_shows_of_issue hprinted
  exact ⟨o, issuer, who, token, hread, hshows, fun v => hshows.verify, hshows.size_le,
    hshows.lt_size⟩

/-- Options that ask for a token of number 7 with the sample key. -/
def sampleOptions (username : String) : Options where
  keyPath := "key.pem"
  algorithm := "RS256"
  id := 7
  username := username
  grants := ["ROLE_USER"]
  lifetime := Settings.defaultLifetime
  quiet := false

/-- Those options can be asked for. -/
theorem read_sampleOptions (username : String) :
    read (argumentsFor (sampleOptions username)) = .ok (.issue (sampleOptions username)) := by
  have hpath : "key.pem" ≠ "" := by decide
  have hlifetime : Settings.defaultLifetime < 2 ^ 64 := by decide
  exact @read_argumentsFor (sampleOptions username) hpath hlifetime

/-- With the sample key something is **printed** for them, whatever the name is. -/
theorem exists_issue_sampleOptions (username : String) :
    ∃ text, issue (fun _ => .ok samplePrivateText) 100 0 (sampleOptions username) = .ok text := by
  obtain ⟨token, htoken⟩ := @exists_issue_sampleIssuer 100 (by decide) 0
    ⟨7, username, NameSet.ofList ["role-user"]⟩
  have hidentity : identityOf (sampleOptions username) =
      .ok ⟨7, username, NameSet.ofList ["role-user"]⟩ := by
    have hroles : Role.resolveAll ["ROLE_USER"] = .ok ["role-user"] := by decide +kernel
    rw [identityOf, sampleOptions, hroles]
  obtain ⟨hid, husername, hknown, hgrants⟩ := identityOf_eq_ok_iff.mp hidentity
  have hasked : IsAskedFor (fun _ => .ok samplePrivateText) (sampleOptions username) sampleIssuer
      ⟨7, username, NameSet.ofList ["role-user"]⟩ :=
    ⟨rfl, ⟨_, rfl, load_samplePrivateText⟩, rfl, hid, husername, hknown, hgrants⟩
  exact ⟨_, issue_eq_ok_iff.mpr ⟨_, _, _, hasked, htoken, rfl⟩⟩

/-- The sample verifier **matches** the issuer that they ask for. -/
theorem matchedBy_sampleVerifier {issuer : Issuer} {who : Identity} {username : String}
    (h : IsAskedFor (fun _ => .ok samplePrivateText) (sampleOptions username) issuer who) :
    MatchedBy issuer sampleVerifier := by
  obtain ⟨hname, ⟨material, hmaterial, hkey⟩, -⟩ := h
  have hrs256 : Algorithm.ofName? "RS256" = some .rs256 := by decide
  have hsame : issuer.algorithm = .rs256 := Option.some.inj (hname.symm.trans hrs256)
  rw [← Except.ok.inj hmaterial, hsame, load_samplePrivateText, Except.ok.injEq] at hkey
  have hresolve : sampleVerifier.resolve = Role.resolve := by rw [sampleVerifier]
  have hkeys : issuer.key.Matches sampleVerifier.key := by
    rw [← hkey]
    exact samplePair_matches
  exact ⟨hsame, hkeys, hresolve⟩

/-- The token that is printed for ada verifies as that of number 7, for ada. -/
theorem printed_tokens_verify_ada :
    ∃ text issuer who token,
      HandsOut (fun _ => .ok samplePrivateText) 100 0 (argumentsFor (sampleOptions "ada")) text ∧
      Shows (fun _ => .ok samplePrivateText) 100 0 (sampleOptions "ada") text issuer who token ∧
      sampleVerifier.verify 100 token = .ok who ∧ who.id = 7 ∧ who.username = "ada" := by
  obtain ⟨text, htext⟩ := exists_issue_sampleOptions "ada"
  have hhands : HandsOut (fun _ => .ok samplePrivateText) 100 0 (argumentsFor (sampleOptions "ada"))
      text := ⟨_, read_sampleOptions "ada", htext⟩
  obtain ⟨o, issuer, who, token, hread, hshows, hverify, hshort, -⟩ := printed_tokens_verify hhands
  rw [read_sampleOptions, Except.ok.injEq, Command.issue.injEq] at hread
  subst hread
  have hsize : Utf8.size token.toList ≤ 8192 := hshort (by decide)
  have haccepted :=
    hverify sampleVerifier (matchedBy_sampleVerifier hshows.asked) (Nat.zero_le _)
  rw [if_pos hsize] at haccepted
  exact ⟨text, issuer, who, token, hhands, hshows, haccepted, hshows.asked.id,
    hshows.asked.username⟩

/-- **Not every printed token verifies.** For a name of 6200 letters the tool prints a token that
the verifier with the matching key refuses because of its size. -/
theorem not_every_printed_token_verifies :
    ∃ text issuer who token,
      HandsOut (fun _ => .ok samplePrivateText) 100 0
        (argumentsFor (sampleOptions (String.ofList (List.replicate 6200 'a')))) text ∧
      Shows (fun _ => .ok samplePrivateText) 100 0
        (sampleOptions (String.ofList (List.replicate 6200 'a'))) text issuer who token ∧
      MatchedBy issuer sampleVerifier ∧
      sampleVerifier.verify 100 token = .error (.malformed .oversized) := by
  have hname : Utf8.size (String.ofList (List.replicate 6200 'a')).toList = 6200 := by
    rw [String.toList_ofList, Utf8.size_of_ascii, List.length_replicate]
    intro c hc
    rw [List.eq_of_mem_replicate hc]
    decide
  -- All that counts of the name is its size.
  generalize String.ofList (List.replicate 6200 'a') = username at hname ⊢
  obtain ⟨text, htext⟩ := exists_issue_sampleOptions username
  obtain ⟨issuer, who, token, hshows⟩ := exists_shows_of_issue htext
  have hmatched := matchedBy_sampleVerifier hshows.asked
  have hlong : 8192 < Utf8.size token.toList := by
    refine hshows.lt_size ?_
    rw [sampleOptions, hname]
    decide
  have hrefused := hshows.verify hmatched (Nat.zero_le _)
  rw [if_neg (Nat.not_le.mpr hlong)] at hrefused
  exact ⟨text, issuer, who, token, ⟨_, read_sampleOptions username, htext⟩, hshows, hmatched,
    hrefused⟩

end CommandLine

end BearerGate
