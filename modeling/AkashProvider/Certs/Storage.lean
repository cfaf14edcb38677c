import AkashProvider.Lib.Except
import Mathlib.Logic.Function.Basic
import Mathlib.Tactic.Common

/-!
# The storage of certificates

A certificate is stored in several files.  When one of them cannot be written, those that were
written before it are removed, also where they have replaced others, and the file itself stays as
the write left it (`failed_save_loses_certificate`).  What is read back may be no resource and no
error (`unreadable_key_no_error`).
-/

namespace AkashProvider.Certs

abbrev Bytes := List UInt8

/-- The extensions `extIssuer`, `extCert`, `extKey`, `extPem`, `extPfx` and `extResource`. -/
inductive Ext where
  | issuer
  | cert
  | key
  | pem
  | pfx
  | resource
deriving DecidableEq

def Ext.name : Ext → String
  | .issuer => ".issuer.crt"
  | .cert => ".crt"
  | .key => ".key"
  | .pem => ".pem"
  | .pfx => ".pfx"
  | .resource => ".json"

/-- The error of a file is with its extension. -/
inductive StorageErr where
  | notExist (ext : Ext)
  | unreadable (ext : Ext)
  | write
  | domain
  | metadata
  | pfx
  | missingPrivateKey
  | panics
deriving DecidableEq

/-- A file as `os.ReadFile` finds it. -/
inductive File where
  | missing
  | unreadable
  | data (bytes : Bytes)
deriving DecidableEq

def File.read (ext : Ext) : File → Except StorageErr Bytes
  | .missing => .error (.notExist ext)
  | .unreadable => .error (.unreadable ext)
  | .data bytes => .ok bytes

/-- The certificate files, by base name and extension. -/
abbrev Files := String → Ext → File

def Files.set (files : Files) (base : String) (ext : Ext) (file : File) : Files :=
  Function.update files base (Function.update (files base) ext file)

/-- `certificate.Resource`.  The metadata is what its JSON holds besides the domain. -/
structure Resource (μ : Type) where
  domain : String
  metadata : μ
  certificate : Bytes
  privateKey : Option Bytes
  issuerCertificate : Option Bytes
deriving DecidableEq

/-- The paths of the files, each in the field for its extension. -/
structure ResourcesInfo where
  domain : String
  files : List (Ext × String)
deriving DecidableEq

/-- The configuration, and the packages for domain names, JSON and PKCS 12.  To unmarshal may
fail, set the pointer to nil or fill a resource whose domain was set before. -/
structure Storage (μ : Type) where
  pem : Bool
  pfx : Bool
  filename : String
  sanitizedDomain : String → Option String
  marshal : String → μ → Bytes
  unmarshal : String → Bytes → Option (Option (String × μ))
  encodePFX : Resource μ → Option Bytes

/-- How `os.WriteFile` fails: before the file is touched, or after a part was written. -/
inductive WriteFailure where
  | untouched
  | cut (written : Nat)
deriving DecidableEq

/-- The files, and the extensions of the `writerRollback`. -/
structure Saving where
  files : Files
  rollback : List Ext

namespace Storage

variable {μ : Type} (S : Storage μ)

def getFileName (domain : String) : Except StorageErr String :=
  (S.sanitizedDomain domain).elim (.error .domain) .ok

def readFile (files : Files) (domain : String) (ext : Ext) :
    Except StorageErr (Bytes × String) :=
  (S.getFileName domain).bind fun base =>
    ((files base ext).read ext).map fun bytes => (bytes, base ++ ext.name)

/-- A file that may be missing.  None for every other error. -/
def readOptional (files : Files) (domain : String) (ext : Ext) :
    Option (Option Bytes × List (Ext × String)) :=
  match S.readFile files domain ext with
  | .ok (bytes, path) => some (some bytes, [(ext, path)])
  | .error (.notExist _) => some (none, [])
  | .error _ => none

def decode (domain : String) (raw : Bytes) : Except StorageErr (String × μ) :=
  match S.unmarshal domain raw with
  | none => .error .metadata
  -- the fields of a nil pointer are set next
  | some none => .error .panics
  | some (some metadata) => .ok metadata

def readResource (files : Files) (domain : String) :
    Except StorageErr (Option (Resource μ) × ResourcesInfo) := do
  let (raw, _) ← S.readFile files domain .resource
  let (storedDomain, metadata) ← S.decode domain raw
  let (certificate, path) ← S.readFile files domain .cert
  match S.readOptional files domain .key with
  | none => .ok (none, ⟨"", []⟩)
  | some (key, keyFile) =>
    match S.readOptional files domain .issuer with
    | none => .ok (none, ⟨"", []⟩)
    | some (issuer, issuerFile) =>
      .ok (some ⟨storedDomain, metadata, certificate, key, issuer⟩,
        ⟨domain, [(.cert, path)] ++ keyFile ++ issuerFile⟩)

def privateFiles (res : Resource μ) : Except StorageErr (List (Ext × Except StorageErr Bytes)) :=
  match res.privateKey with
  | some key => .ok ([(.key, .ok key)] ++
      (if S.pem then [(.pem, .ok (res.certificate ++ key))] else []) ++
      if S.pfx then [(.pfx, (S.encodePFX res).elim (.error .pfx) .ok)] else [])
  | none => if S.pem || S.pfx then .error .missingPrivateKey else .ok []

/-- The files that a resource is saved to, in order, with what is written. -/
def contents (res : Resource μ) : Except StorageErr (List (Ext × Except StorageErr Bytes)) :=
  (S.privateFiles res).map fun fs => fs ++ [(.cert, .ok res.certificate)] ++
    (res.issuerCertificate.map fun issuer => (.issuer, .ok issuer)).toList ++
    [(.resource, .ok (S.marshal res.domain res.metadata))]

/-- The base name that is written to, which need not be the one that is read. -/
def baseFileName (domain : String) : Except StorageErr String :=
  if S.filename = "" then S.getFileName domain else .ok S.filename

def writeFile (fails : Ext → Option WriteFailure) (domain : String) (s : Saving)
    (f : Ext × Except StorageErr Bytes) : Except (StorageErr × Saving) Saving :=
  match f.2, S.baseFileName domain with
  | .error err, _ => .error (err, s)
  | .ok _, .error err => .error (err, s)
  | .ok data, .ok base =>
    match fails f.1 with
    | none => .ok ⟨s.files.set base f.1 (.data data), s.rollback ++ [f.1]⟩
    | some .untouched => .error (.write, s)
    | some (.cut n) =>
      .error (.write, { s with files := s.files.set base f.1 (.data (data.take n)) })

def cleanup (domain : String) (s : Saving) : Files :=
  s.rollback.foldl (fun files ext =>
    (S.sanitizedDomain domain).elim files fun base => files.set base ext .missing) s.files

/-- `SaveResource`, where the writes fail as given: the files afterwards, and the error. -/
def saveResource (files : Files) (fails : Ext → Option WriteFailure) (res : Resource μ) :
    Files × Except StorageErr ResourcesInfo :=
  match S.contents res with
  | .error err => (files, .error err)
  | .ok fs =>
    match fs.foldlM (S.writeFile fails res.domain) ⟨files, []⟩ with
    | .error (err, s) => (S.cleanup res.domain s, .error err)
    | .ok s =>
      (s.files, .ok ⟨res.domain, (s.rollback.filter (· ≠ .resource)).map fun ext =>
        (ext, (S.baseFileName res.domain).toOption.getD "" ++ ext.name)⟩)

/-! ## Saving -/

/-- The writes that succeed before one fails, and what that one leaves of its file. -/
def writes (fails : Ext → Option WriteFailure) :
    List (Ext × Except StorageErr Bytes) → List Ext × Option (Ext × Bytes)
  | [] => ([], none)
  | (_, .error _) :: _ => ([], none)
  | (ext, .ok data) :: fs =>
    match fails ext with
    | none => (ext :: (writes fails fs).1, (writes fails fs).2)
    | some .untouched => ([], none)
    | some (.cut n) => ([], some (ext, data.take n))

/-- The extensions that a save has written when it fails. -/
def written (fails : Ext → Option WriteFailure) (res : Resource μ) : List Ext :=
  (writes fails ((S.contents res).toOption.getD [])).1

/-- What a failed save leaves of a file: nothing if it was written, the part that was written if
its write was cut, and otherwise the file. -/
def left (files : Files) (fails : Ext → Option WriteFailure) (res : Resource μ) (base : String)
    (ext : Ext) : File :=
  if ext ∈ S.written fails res then .missing
  else
    match (writes fails ((S.contents res).toOption.getD [])).2 with
    | none => files base ext
    | some (ext', data) =>
      if ext' = ext ∧ S.baseFileName res.domain = .ok base then .data data else files base ext

def readMetadata (domain : String) (file : File) : Except StorageErr (String × μ) :=
  (file.read .resource).bind (S.decode domain)

/-- What is left says the same to a reader.  Without metadata nothing else is read, without a
certificate neither is the key, and if the key or the issuer is unreadable nothing is returned. -/
def Unseen (files : Files) (fails : Ext → Option WriteFailure) (res : Resource μ)
    (base : String) : Prop :=
  match S.readMetadata res.domain (files base .resource),
    S.readMetadata res.domain (S.left files fails res base .resource) with
  | .error err, .error err' => err = err'
  | .ok _, .ok _ =>
    match files base .cert with
    | .data _ => .cert ∉ S.written fails res ∧ (files base .issuer = .unreadable ∨
        S.left files fails res base .key = files base .key ∧
          (files base .key = .unreadable ∨
            S.left files fails res base .cert = files base .cert))
    | _ => S.left files fails res base .cert = files base .cert
  | _, _ => False

variable {S} {files : Files} {fails : Ext → Option WriteFailure} {res : Resource μ}
  {domain base : String} {ext : Ext} {f : Ext × Except StorageErr Bytes} {err : StorageErr}
  {s s' : Saving}

theorem set_apply (base' : String) (ext' : Ext) (file : File) :
    files.set base' ext' file base ext =
      if base = base' ∧ ext = ext' then file else files base ext := by
  by_cases hbase : base = base'
  · subst hbase
    simp [Files.set, Function.update_apply]
  · simp [Files.set, hbase]

theorem cleanup_apply (hbase : S.sanitizedDomain domain = some base) :
    S.cleanup domain s base ext = if ext ∈ s.rollback then .missing else s.files base ext := by
  unfold cleanup
  generalize s.files = files
  induction s.rollback generalizing files with
  | nil => rfl
  | cons ext' exts ih =>
    rw [List.foldl_cons, ih, hbase]
    simp only [Option.elim_some, set_apply, List.mem_cons, true_and]
    by_cases hext : ext = ext'
    · simp [hext]
    · simp [hext]

/-- A save that fails has registered what it wrote, and changed the other files only where a write
was cut. -/
theorem foldlM_writeFile_error {base' : String} (hbase : S.baseFileName domain = .ok base') :
    ∀ (fs : List (Ext × Except StorageErr Bytes)) (s : Saving),
      fs.foldlM (S.writeFile fails domain) s = .error (err, s') →
      s'.rollback = s.rollback ++ (writes fails fs).1 ∧
        ∀ ext ∉ (writes fails fs).1, s'.files base ext = match (writes fails fs).2 with
          | none => s.files base ext
          | some (ext', data) =>
            if ext' = ext ∧ base' = base then .data data else s.files base ext
  | [], s, h => by cases h
  | (ext', .error e) :: fs, s, h => by
    cases h
    simp [writes]
  | (ext', .ok data) :: fs, s, h => by
    rw [List.foldlM_cons] at h
    simp only [writeFile, hbase] at h
    unfold writes
    cases hfails : fails ext' with
    | none =>
      rw [hfails] at h
      obtain ⟨hrollback, hfiles⟩ := foldlM_writeFile_error hbase fs _ h
      refine ⟨by simp [hrollback], fun ext hext => ?_⟩
      rw [List.mem_cons, not_or] at hext
      have hkept : s.files.set base' ext' (.data data) base ext = s.files base ext := by
        rw [set_apply, if_neg fun h => hext.1 h.2]
      rw [hfiles ext hext.2]
      simp only [hkept]
    | some failure =>
      rw [hfails] at h
      cases failure with
      | untouched =>
        cases h
        simp
      | cut n =>
        cases h
        refine ⟨by simp, fun ext _ => ?_⟩
        simp only [set_apply]
        exact if_congr ⟨fun h => ⟨h.2.symm, h.1.symm⟩, fun h => ⟨h.2.symm, h.1.symm⟩⟩ rfl rfl

theorem saveResource_left (hbase : S.sanitizedDomain res.domain = some base)
    (hfailed : (S.saveResource files fails res).2 = .error err) (ext : Ext) :
    (S.saveResource files fails res).1 base ext = S.left files fails res base ext := by
  have hname : ∃ base', S.baseFileName res.domain = .ok base' := by
    unfold baseFileName getFileName
    rw [hbase]
    split
    · exact ⟨_, rfl⟩
    · exact ⟨_, rfl⟩
  obtain ⟨base', hbase'⟩ := hname
  unfold saveResource at hfailed ⊢
  unfold left written
  cases hcontents : S.contents res with
  | error e => rfl
  | ok fs =>
    simp only [hcontents] at hfailed
    cases hsave : fs.foldlM (S.writeFile fails res.domain) ⟨files, []⟩ with
    | ok s =>
      rw [hsave] at hfailed
      cases hfailed
    | error x =>
      obtain ⟨hrollback, hfiles⟩ := foldlM_writeFile_error hbase' fs _ hsave
      simp only [hsave, Except.toOption, Option.getD_some, cleanup_apply hbase, hrollback,
        List.nil_append, hbase']
      split
      · rfl
      · next hext =>
        rw [hfiles ext hext]
        simp only [Except.ok.injEq]

/-- The files before the certificate are those for the key. -/
theorem contents_eq_ok {fs : List (Ext × Except StorageErr Bytes)} (h : S.contents res = .ok fs) :
    ∃ keys rest, fs = keys ++ (.cert, .ok res.certificate) :: rest ∧
      ∀ f ∈ keys, f.1 ≠ .issuer ∧ f.1 ≠ .resource := by
  obtain ⟨keys, hkeys, rfl⟩ := Except.exists_of_map_eq_ok h
  refine ⟨keys, _, by simp only [List.append_assoc, List.singleton_append]; rfl, ?_⟩
  unfold privateFiles at hkeys
  split at hkeys
  · injection hkeys with hkeys
    subst hkeys
    cases S.pem <;> cases S.pfx <;> simp
  · obtain ⟨-, rfl⟩ := Except.ite_ok_eq_ok_iff.mp hkeys
    simp

/-- If a file is not written, then none behind it is touched. -/
theorem writes_before {data : Bytes} (rest : List (Ext × Except StorageErr Bytes)) :
    ∀ fs : List (Ext × Except StorageErr Bytes),
      ext ∉ (writes fails (fs ++ (ext, .ok data) :: rest)).1 →
      (∀ e ∈ (writes fails (fs ++ (ext, .ok data) :: rest)).1, ∃ f ∈ fs, f.1 = e) ∧
        ∀ t ∈ (writes fails (fs ++ (ext, .ok data) :: rest)).2, t.1 = ext ∨ ∃ f ∈ fs, f.1 = t.1
  | [], h => by
    simp only [List.nil_append, writes] at h ⊢
    split at h
    · simp at h
    · simp
    · simp
  | (_, .error _) :: fs, _ => by simp [writes]
  | (ext', .ok data') :: fs, h => by
    simp only [List.cons_append, writes] at h ⊢
    cases hfails : fails ext' with
    | none =>
      simp only [hfails, List.mem_cons, not_or] at h
      obtain ⟨hdone, htorn⟩ := writes_before rest fs h.2
      refine ⟨fun e he => ?_, fun t ht => ?_⟩
      · obtain rfl | he := List.mem_cons.mp he
        · exact ⟨_, List.mem_cons_self, rfl⟩
        · obtain ⟨f, hf, hfe⟩ := hdone e he
          exact ⟨f, List.mem_cons_of_mem _ hf, hfe⟩
      · obtain htext | ⟨f, hf, hft⟩ := htorn t ht
        · exact .inl htext
        · exact .inr ⟨f, List.mem_cons_of_mem _ hf, hft⟩
    | some failure => cases failure <;> simp

theorem left_of_cert (h : .cert ∉ S.written fails res) (hext : ext = .issuer ∨ ext = .resource) :
    S.left files fails res base ext = files base ext := by
  unfold left
  cases hcontents : S.contents res with
  | error e =>
    rw [if_neg (by simp [written, writes, hcontents, Except.toOption])]
    rfl
  | ok fs =>
    obtain ⟨keys, rest, rfl, hkeys⟩ := contents_eq_ok hcontents
    simp only [written, hcontents, Except.toOption, Option.getD_some] at h
    obtain ⟨hdone, htorn⟩ := writes_before rest keys h
    have hkey : ∀ f ∈ keys, f.1 ≠ ext := by
      intro f hf
      obtain rfl | rfl := hext
      · exact (hkeys f hf).1
      · exact (hkeys f hf).2
    have hnot : ext ∉ S.written fails res := by
      simp only [written, hcontents, Except.toOption, Option.getD_some]
      intro hmem
      obtain ⟨f, hf, hfe⟩ := hdone ext hmem
      exact hkey f hf hfe
    rw [if_neg hnot]
    simp only [Except.toOption, Option.getD_some]
    split
    · rfl
    · next ext' data ht =>
      refine if_neg fun h => ?_
      obtain hcert | ⟨f, hf, hft⟩ := htorn _ ht
      · obtain rfl | rfl := hext <;> exact absurd (h.1.symm.trans hcert) (by decide)
      · exact hkey f hf (hft.trans h.1)

/-! ## Reading what is left -/

/-- What is read, from the files of a base name. -/
def assemble (domain base : String) (metadata : Except StorageErr (String × μ))
    (cert key issuer : File) : Except StorageErr (Option (Resource μ) × ResourcesInfo) := do
  let (storedDomain, metadata) ← metadata
  let certificate ← cert.read .cert
  match key.read .key, issuer.read .issuer with
  | .error (.unreadable _), _ => .ok (none, ⟨"", []⟩)
  | _, .error (.unreadable _) => .ok (none, ⟨"", []⟩)
  | key, issuer =>
    .ok (some ⟨storedDomain, metadata, certificate, key.toOption, issuer.toOption⟩,
      ⟨domain, [(.cert, base ++ Ext.cert.name)] ++
        key.toOption.toList.map (fun _ => (.key, base ++ Ext.key.name)) ++
        issuer.toOption.toList.map fun _ => (.issuer, base ++ Ext.issuer.name)⟩)

theorem readResource_eq_assemble (hbase : S.sanitizedDomain domain = some base) :
    S.readResource files domain = assemble domain base
      (S.readMetadata domain (files base .resource)) (files base .cert) (files base .key)
      (files base .issuer) := by
  have hfile : ∀ ext, S.readFile files domain ext =
      ((files base ext).read ext).map fun bytes => (bytes, base ++ ext.name) := by
    intro ext
    rw [readFile, getFileName, hbase]
    rfl
  unfold readResource assemble readMetadata readOptional
  simp only [hfile]
  cases files base .resource with
  | missing | unreadable => rfl
  | data raw =>
    simp only [File.read, Except.map, bind, Except.bind]
    cases S.decode domain raw with
    | error e => rfl
    | ok m =>
      cases files base .cert with
      | missing | unreadable => rfl
      | data certificate =>
        cases files base .key <;> cases files base .issuer <;> rfl

theorem assemble_data_ne (metadata : String × μ) (certificate : Bytes) (key issuer : File) :
    assemble domain base (.ok metadata) (.data certificate) key issuer ≠ .error err := by
  cases key <;> cases issuer <;> exact nofun

theorem readMetadata_ne_cert {file cert : File} (metadata : String × μ) (key issuer : File)
    (h : S.readMetadata domain file = .error err) :
    assemble domain base (.ok metadata) cert key issuer ≠ .error err := by
  cases cert with
  | data certificate => exact assemble_data_ne metadata certificate key issuer
  | missing | unreadable =>
    rintro ⟨⟩
    cases file with
    | missing | unreadable => cases h
    | data raw =>
      simp only [readMetadata, File.read, Except.bind, decode] at h
      split at h <;> cases h

theorem left_cert {certificate : Bytes} (h : .cert ∉ S.written fails res)
    (hcert : files base .cert = .data certificate) :
    ∃ certificate', S.left files fails res base .cert = .data certificate' := by
  unfold left
  rw [if_neg h]
  split
  · exact ⟨certificate, hcert⟩
  · split
    · exact ⟨_, rfl⟩
    · exact ⟨certificate, hcert⟩

theorem assemble_left_iff :
    assemble res.domain base (S.readMetadata res.domain (S.left files fails res base .resource))
        (S.left files fails res base .cert) (S.left files fails res base .key)
        (S.left files fails res base .issuer) =
      assemble res.domain base (S.readMetadata res.domain (files base .resource))
        (files base .cert) (files base .key) (files base .issuer) ↔
      S.Unseen files fails res base := by
  unfold Unseen
  cases hmeta : S.readMetadata res.domain (files base .resource) with
  | error e =>
    cases hmeta' : S.readMetadata res.domain (S.left files fails res base .resource) with
    | error e' =>
      simp only [assemble, bind, Except.bind, Except.error.injEq]
      exact eq_comm
    | ok m' =>
      simp only [iff_false]
      exact readMetadata_ne_cert m' _ _ hmeta
  | ok m =>
    cases hmeta' : S.readMetadata res.domain (S.left files fails res base .resource) with
    | error e' =>
      simp only [iff_false]
      exact fun h => readMetadata_ne_cert m _ _ hmeta' h.symm
    | ok m' =>
      cases hcert : files base .cert with
      | missing | unreadable =>
        cases hleft : S.left files fails res base .cert with
        | missing | unreadable => simp [assemble, File.read, bind, Except.bind]
        | data certificate' =>
          exact ⟨fun h => absurd h (assemble_data_ne m' certificate' _ _), nofun⟩
      | data certificate =>
        by_cases hwritten : .cert ∈ S.written fails res
        · have hleft : S.left files fails res base .cert = .missing := if_pos hwritten
          rw [hleft]
          exact ⟨fun h => absurd h.symm (assemble_data_ne m certificate _ _),
            fun h => absurd hwritten h.1⟩
        · rw [left_of_cert hwritten (.inr rfl), hmeta] at hmeta'
          injection hmeta' with hmeta'
          subst hmeta'
          obtain ⟨certificate', hleft⟩ := left_cert hwritten hcert
          rw [left_of_cert hwritten (.inl rfl), hleft]
          simp only [hwritten, not_false_eq_true, true_and]
          cases files base .issuer <;> cases files base .key <;>
            cases S.left files fails res base .key <;>
            simp [assemble, File.read, bind, Except.bind, Except.toOption, and_comm]

/-- After a failed save a reader gets what it would have got before, exactly if what is left under
the name that is read says the same. -/
theorem failed_save_unseen_iff (hfailed : (S.saveResource files fails res).2 = .error err) :
    S.readResource (S.saveResource files fails res).1 res.domain =
        S.readResource files res.domain ↔
      ∀ base, S.sanitizedDomain res.domain = some base → S.Unseen files fails res base := by
  cases hbase : S.sanitizedDomain res.domain with
  | none =>
    have hread : ∀ files, S.readResource files res.domain = .error .domain := by
      intro files
      rw [readResource, readFile, getFileName, hbase]
      rfl
    simp [hread]
  | some base =>
    rw [readResource_eq_assemble hbase, readResource_eq_assemble hbase]
    simp only [saveResource_left hbase hfailed, assemble_left_iff, Option.some.injEq, forall_eq']

/-- A storage whose metadata is one byte, and null for the byte 110. -/
def plain : Storage UInt8 where
  pem := false
  pfx := false
  filename := ""
  sanitizedDomain := some
  marshal _ b := [b]
  unmarshal domain raw := match raw with
    | [b] => some (if b = 110 then none else some (domain, b))
    | _ => none
  encodePFX _ := none

/-- A certificate with its key, and what it is stored as. -/
def stored : Files := fun _ ext => match ext with
  | .resource => .data [1]
  | .cert => .data [2]
  | .key => .data [3]
  | _ => .missing

/-- The files have another name than the one that is read, and the first write is cut. -/
theorem other_name_unseen :
    let S : Storage UInt8 := { plain with filename := "x" }
    S.readResource (S.saveResource stored (fun _ => some (.cut 0))
        ⟨"a", 5, [6], some [7], none⟩).1 "a" = S.readResource stored "a" := by
  intro S
  have hfailed : (S.saveResource stored (fun _ => some (.cut 0))
      ⟨"a", 5, [6], some [7], none⟩).2 = .error .write := rfl
  refine (failed_save_unseen_iff hfailed).mpr fun base hbase => ?_
  cases hbase
  exact ⟨by decide, .inr ⟨by decide, .inr (by decide)⟩⟩

/-- When the certificate of a renewal cannot be written, the stored one is gone as well. -/
theorem failed_save_loses_certificate :
    let save := plain.saveResource stored
      (fun ext => if ext = .cert then some .untouched else none) ⟨"a", 5, [6], some [7], none⟩
    save.2 = .error .write ∧
      plain.readResource stored "a" =
        .ok (some ⟨"a", 1, [2], some [3], none⟩, ⟨"a", [(.cert, "a.crt"), (.key, "a.key")]⟩) ∧
      plain.readResource save.1 "a" =
        .ok (some ⟨"a", 1, [2], none, none⟩, ⟨"a", [(.cert, "a.crt")]⟩) := by
  decide

/-! ## Reading -/

/-- A file was read, or is not there. -/
def ReadOrMissing (S : Storage μ) (files : Files) (domain : String) (ext : Ext) :
    Option Bytes → Prop
  | some bytes => ∃ path, S.readFile files domain ext = .ok (bytes, path)
  | none => S.readFile files domain ext = .error (.notExist ext)

/-- Reading does not panic, and without an error the resource is there, with the files that it
was read from. -/
def CompleteOrAbsent (S : Storage μ) (files : Files) (domain : String) : Prop :=
  match S.readResource files domain with
  | .error err => err ≠ .panics
  | .ok (res, _) => ∃ r raw path path', res = some r ∧
      S.readFile files domain .resource = .ok (raw, path) ∧
      S.unmarshal domain raw = some (some (r.domain, r.metadata)) ∧
      S.readFile files domain .cert = .ok (r.certificate, path') ∧
      ReadOrMissing S files domain .key r.privateKey ∧
      ReadOrMissing S files domain .issuer r.issuerCertificate

/-- The metadata is not null, and next to metadata and certificate no file is unreadable. -/
def Legible (S : Storage μ) (files : Files) (domain : String) : Prop :=
  ∀ raw path, S.readFile files domain .resource = .ok (raw, path) →
    S.unmarshal domain raw ≠ some none ∧
      ∀ metadata cert, S.unmarshal domain raw = some (some metadata) →
        S.readFile files domain .cert = .ok cert →
        S.readFile files domain .key ≠ .error (.unreadable .key) ∧
          S.readFile files domain .issuer ≠ .error (.unreadable .issuer)

/-- A pass over the domains at the start of `run`: what is kept of a domain, if anything.
`attempts` are the results of `obtainCert`, `parse` is for PEM and X.509. -/
def startDomain {χ : Type} (S : Storage μ) (parse : Bytes → Option χ)
    (attempts : List (Option (Resource μ × ResourcesInfo))) (files : Files) (domain : String) :
    Except StorageErr (Option (Resource μ × χ × ResourcesInfo)) :=
  let keep (res : Option (Resource μ)) (info : ResourcesInfo) :=
    match res with
    -- the certificate of a nil pointer is read
    | none => .error .panics
    | some res => .ok ((parse res.certificate).map fun cert => (res, cert, info))
  match S.readResource files domain with
  | .error .panics => .error .panics
  | .error (.notExist _) =>
    match (attempts.take 5).findSome? id with
    | some (res, info) => keep (some res) info
    | none => .ok none
  | .error _ => .ok none
  | .ok (res, info) => keep res info

theorem readOptional_cases (files : Files)
    (hname : ∃ base, S.sanitizedDomain domain = some base) (ext : Ext) :
    (S.readFile files domain ext = .error (.unreadable ext) ∧
      S.readOptional files domain ext = none) ∨
      S.readFile files domain ext ≠ .error (.unreadable ext) ∧
      ∃ bytes paths, S.readOptional files domain ext = some (bytes, paths) ∧
        ReadOrMissing S files domain ext bytes := by
  obtain ⟨base, hbase⟩ := hname
  unfold readOptional ReadOrMissing readFile getFileName
  cases hfile : files base ext <;> simp [hbase, hfile, File.read, Except.bind, Except.map]

theorem exists_of_readFile_eq_ok {x : Bytes × String} (h : S.readFile files domain ext = .ok x) :
    ∃ base, S.sanitizedDomain domain = some base := by
  unfold readFile getFileName at h
  cases hbase : S.sanitizedDomain domain with
  | none =>
    rw [hbase] at h
    cases h
  | some base => exact ⟨base, rfl⟩

theorem readFile_ne_panics : S.readFile files domain ext ≠ .error .panics := by
  unfold readFile getFileName
  cases S.sanitizedDomain domain with
  | none => simp [Except.bind]
  | some base => cases hfile : files base ext <;> simp [hfile, File.read, Except.bind, Except.map]

/-- Reading panics, or returns neither a resource nor an error. -/
def ReadsNil (S : Storage μ) (files : Files) (domain : String) : Prop :=
  S.readResource files domain = .error .panics ∨
    ∃ info, S.readResource files domain = .ok (none, info)

theorem reads_iff_legible : (CompleteOrAbsent S files domain ↔ Legible S files domain) ∧
    (¬ ReadsNil S files domain ↔ Legible S files domain) := by
  unfold CompleteOrAbsent ReadsNil Legible readResource
  cases hraw : S.readFile files domain .resource with
  | error err =>
    have hne : err ≠ .panics := fun h => readFile_ne_panics (h ▸ hraw)
    simp [bind, Except.bind, hne]
  | ok x =>
    have hname := exists_of_readFile_eq_ok hraw
    obtain ⟨raw, path⟩ := x
    cases hmeta : S.unmarshal domain raw with
    | none => simp [bind, Except.bind, decode, hmeta]
    | some metadata =>
      cases metadata with
      | none => simp [bind, Except.bind, decode, hmeta]
      | some metadata =>
        obtain ⟨storedDomain, metadata⟩ := metadata
        cases hcert : S.readFile files domain .cert with
        | error err =>
          have hne : err ≠ .panics := fun h => readFile_ne_panics (h ▸ hcert)
          simp [bind, Except.bind, decode, hmeta, hne]
        | ok c =>
          obtain ⟨cert, certFile⟩ := c
          obtain ⟨hkey, hopt⟩ | ⟨hkey, key, keyFile, hopt, hread⟩ :=
            readOptional_cases files hname .key
          · simp [bind, Except.bind, decode, hmeta, hkey, hopt]
          obtain ⟨hissuer, hopt'⟩ | ⟨hissuer, issuer, issuerFile, hopt', hread'⟩ :=
            readOptional_cases files hname .issuer
          · simp [bind, Except.bind, decode, hmeta, hissuer, hopt, hopt']
          · simp [bind, Except.bind, decode, hmeta, hkey, hissuer, hopt, hopt', hread, hread']

/-- At the start of `run` nil is dereferenced if it is read. -/
theorem startDomain_panics_iff {χ : Type} (parse : Bytes → Option χ)
    (attempts : List (Option (Resource μ × ResourcesInfo))) :
    S.startDomain parse attempts files domain = .error .panics ↔ ReadsNil S files domain := by
  unfold startDomain ReadsNil
  cases hread : S.readResource files domain with
  | error err =>
    cases err with
    | notExist ext =>
      simp only [reduceCtorEq, exists_false, or_false, iff_false, Except.error.injEq]
      split <;> exact nofun
    | panics => simp
    | unreadable | write | domain | metadata | pfx | missingPrivateKey => simp
  | ok x =>
    obtain ⟨res, info⟩ := x
    cases res with
    | none => simp
    | some res => simp

/-- A certificate is read complete or not at all exactly if its files are legible, and exactly then
the start of `run` dereferences no missing resource. -/
theorem completeOrAbsent_iff (S : Storage μ) (files : Files) (domain : String) :
    (CompleteOrAbsent S files domain ↔ Legible S files domain) ∧
      ∀ {χ : Type} (parse : Bytes → Option χ) attempts,
        S.startDomain parse attempts files domain ≠ .error .panics ↔ Legible S files domain := by
  refine ⟨reads_iff_legible.1, fun parse attempts => ?_⟩
  rw [Ne, startDomain_panics_iff, reads_iff_legible.2]

/-- The key cannot be read: there is neither a resource nor an error, and the issuer reads the
certificate of no resource. -/
theorem unreadable_key_no_error :
    let files := Files.set stored "a" .key .unreadable
    plain.readResource files "a" = .ok (none, ⟨"", []⟩) ∧ ¬ CompleteOrAbsent plain files "a" ∧
      plain.startDomain (fun _ => some ()) [] files "a" = .error .panics := by
  refine ⟨by decide, ?_, by decide⟩
  rintro ⟨r, -, -, -, ⟨⟩, -⟩

/-! ## What is saved is read back -/

/-- What a save leaves in the files that are read. -/
def saved (S : Storage μ) (res : Resource μ) : Ext → Option Bytes
  | .key => res.privateKey
  | .cert => some res.certificate
  | .issuer => res.issuerCertificate
  | .resource => some (S.marshal res.domain res.metadata)
  | .pem | .pfx => none

theorem writeFile_eq_ok (h : S.writeFile fails domain s f = .ok s') (hext : ext ≠ f.1) :
    s'.files base ext = s.files base ext := by
  unfold writeFile at h
  split at h
  · cases h
  · cases h
  · split at h <;> cases h
    exact (set_apply _ _ _).trans (if_neg fun hsame => hext hsame.2)

theorem foldlM_writeFile_ok (hbase : S.baseFileName domain = .ok base) :
    ∀ (fs : List (Ext × Except StorageErr Bytes)) (s : Saving), (fs.map Prod.fst).Nodup →
      fs.foldlM (S.writeFile fails domain) s = .ok s' →
      (∀ ext data, (ext, .ok data) ∈ fs → s'.files base ext = .data data) ∧
        ∀ ext ∉ fs.map Prod.fst, s'.files base ext = s.files base ext
  | [], _, _, h => by
    cases h
    simp
  | f :: fs, s, hnodup, h => by
    rw [List.foldlM_cons] at h
    obtain ⟨s₁, hwrite, h⟩ := Except.exists_of_bind_eq_ok h
    rw [List.map_cons, List.nodup_cons] at hnodup
    obtain ⟨hstored, hkept⟩ := foldlM_writeFile_ok hbase fs s₁ hnodup.2 h
    refine ⟨fun ext data hmem => ?_, fun ext hext => ?_⟩
    · obtain rfl | hmem := List.mem_cons.mp hmem
      · rw [hkept _ hnodup.1]
        simp only [writeFile, hbase] at hwrite
        split at hwrite <;> cases hwrite
        exact (set_apply _ _ _).trans (if_pos ⟨rfl, rfl⟩)
      · exact hstored ext data hmem
    · rw [hkept ext (by simp_all), writeFile_eq_ok hwrite (by simp_all)]

theorem contents_saved {fs : List (Ext × Except StorageErr Bytes)} (h : S.contents res = .ok fs) :
    (fs.map Prod.fst).Nodup ∧ ∀ ext, ext ≠ .pem ∧ ext ≠ .pfx →
      (∀ data, S.saved res ext = some data → (ext, .ok data) ∈ fs) ∧
        (S.saved res ext = none → ext ∉ fs.map Prod.fst) := by
  obtain ⟨keys, hkeys, rfl⟩ := Except.exists_of_map_eq_ok h
  unfold privateFiles at hkeys
  split at hkeys
  · injection hkeys with hkeys
    subst hkeys
    refine ⟨?_, fun ext => ?_⟩
    · cases res.issuerCertificate <;> cases S.pem <;> cases S.pfx <;> simp
    · cases ext <;> simp_all [saved]
  · obtain ⟨-, rfl⟩ := Except.ite_ok_eq_ok_iff.mp hkeys
    refine ⟨?_, fun ext => ?_⟩
    · cases res.issuerCertificate <;> simp
    · cases ext <;> simp_all [saved]

theorem saveResource_files (hname : S.filename = "")
    (hbase : S.sanitizedDomain res.domain = some base) {info : ResourcesInfo}
    (hsaved : (S.saveResource files fails res).2 = .ok info) (ext : Ext)
    (hext : ext ≠ .pem ∧ ext ≠ .pfx) :
    (S.saveResource files fails res).1 base ext =
      (S.saved res ext).elim (files base ext) .data := by
  have hbase' : S.baseFileName res.domain = .ok base := by
    simp [baseFileName, getFileName, hname, hbase]
  unfold saveResource at hsaved ⊢
  split at hsaved
  · cases hsaved
  · next fs hcontents =>
    obtain ⟨hnodup, hfiles⟩ := contents_saved hcontents
    obtain ⟨hmem, hnot⟩ := hfiles ext hext
    split at hsaved
    · cases hsaved
    · next s hsave =>
      obtain ⟨hstored, hkept⟩ := foldlM_writeFile_ok hbase' fs _ hnodup hsave
      cases hdata : S.saved res ext with
      | some data => exact hstored ext data (hmem data hdata)
      | none => exact hkept ext (hnot hdata)

/-- After a save that succeeds, under the name of the domain, the resource is read back as it was
saved, if no key or issuer that it does not have is left over from an earlier save. -/
theorem saved_resource_read_back (hname : S.filename = "")
    (hbase : S.sanitizedDomain res.domain = some base)
    (hjson : S.unmarshal res.domain (S.marshal res.domain res.metadata) =
      some (some (res.domain, res.metadata)))
    {info : ResourcesInfo} (hsaved : (S.saveResource files fails res).2 = .ok info)
    (hkey : res.privateKey = none → files base .key = .missing)
    (hissuer : res.issuerCertificate = none → files base .issuer = .missing) :
    ∃ info', S.readResource (S.saveResource files fails res).1 res.domain =
      .ok (some res, info') := by
  have hfiles := saveResource_files hname hbase hsaved
  have hresource := hfiles .resource (by simp)
  have hcert := hfiles .cert (by simp)
  have hkeyFile := hfiles .key (by simp)
  have hissuerFile := hfiles .issuer (by simp)
  obtain ⟨domain, metadata, certificate, privateKey, issuerCertificate⟩ := res
  cases privateKey <;> cases issuerCertificate <;>
    simp_all [readResource, readOptional, readFile, getFileName, File.read, decode, saved, bind,
      Except.bind, Except.map]

/-- A renewal takes the place of what was stored, and brings the certificate of its issuer. -/
theorem renewal_read_back : ∃ info', plain.readResource (plain.saveResource stored (fun _ => none)
      ⟨"a", 5, [6], some [7], some [8]⟩).1 "a" =
    .ok (some ⟨"a", 5, [6], some [7], some [8]⟩, info') :=
  saved_resource_read_back (S := plain) rfl rfl rfl rfl (by simp) (by simp)

end Storage

end AkashProvider.Certs
