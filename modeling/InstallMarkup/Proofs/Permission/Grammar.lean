import InstallMarkup.Proofs.Permission.Encoding
import InstallMarkup.Proofs.Reading.Grammar
import InstallMarkup.Proofs.Row.Columns
import InstallMarkup.Proofs.Run.Emitted
import InstallMarkup.Proofs.Run.Faults
import InstallMarkup.Proofs.Run.Retargeting

/-!
# What grants may say

A grant is accepted exactly if it says what it may (`PermissionGrant.Grammar`), its object and its
component are declared, and its action is built (`PermissionGrant.Acceptable`). The reasons for
which it can be refused are found one after the other and are independent, but for one: what the
rights come to is only told by attributes that are all legal.

* **attributes**: they are clean exactly if the user and the domain are texts and everything else is
  a yes or a no to a right (`clean_attributes_iff`); then the answers that are encoded are all of
  them (`answers_eq`);
* **requirements**: a symbol has to be declared (`Symbol.clean_require_iff`), and grants are applied
  on every platform but one (`clean_secureObjects_iff`);
* **grants**: a grant is emitted as it is written, with the mask of its answers (`exists_grant`); a
  dispatch writes its row, or adds an error and leaves the output alone (`dispatch_grant`).
-/

namespace InstallMarkup

/-! ## Objects -/

/-- What a grant secures in a host element of the kind, and what the table of it is called. -/
inductive HostKind.Secures : HostKind → GrantTarget → String → Prop
  | folder : Secures .createFolder ⟨.folder, "DirectoryId", .directory⟩ "CreateFolder"
  | file : Secures .file ⟨.file, "FileId", .file⟩ "File"
  | key : Secures .registry ⟨.registry, "RegistryId", .registry⟩ "Registry"
  | value : Secures .registryValue ⟨.registry, "RegistryId", .registry⟩ "Registry"
  | service : Secures .serviceInstall ⟨.service, "ServiceInstallId", .serviceInstall⟩
      "ServiceInstall"

theorem HostKind.secures_iff {kind : HostKind} {target : GrantTarget} {table : String} :
    kind.Secures target table ↔ kind.grantTarget? = some target ∧ target.object.table = table := by
  constructor
  · rintro ⟨⟩ <;> exact ⟨rfl, rfl⟩
  · rintro ⟨htarget, rfl⟩
    cases kind <;> cases htarget <;> constructor

/-! ## Requirements -/

theorem Symbol.clean_require_iff {symbol : Symbol} {declared : List Symbol}
    {location : SourceLocation} {strict : Bool} :
    Assessment.clean strict (Reading.faults (symbol.require declared location)) = true ↔
      symbol ∈ declared := by
  constructor
  · intro hclean
    exact (Symbol.require_of_clean hclean).1
  · intro hmem
    rw [Symbol.require, if_pos hmem]
    rfl

/-- The action that applies grants is built for every platform but 32-bit ARM. -/
theorem clean_secureObjects_iff {config : Config} {element : String} {location : SourceLocation}
    {strict : Bool} : Assessment.clean strict
      (Reading.faults (NativeAction.secureObjects.require config element location)) = true ↔
      config.platform ≠ .arm := by
  rw [ne_eq, ← actionName?_eq_none_iff]
  constructor
  · intro hclean hnone
    obtain ⟨name, hname, -⟩ := NativeAction.require_of_clean hclean
    cases hnone.symm.trans hname
  · intro hbuilt
    obtain ⟨name, hname⟩ := Option.ne_none_iff_exists'.mp hbuilt
    rw [NativeAction.require, hname]
    rfl

namespace PermissionGrant

/-! ## The grammar -/

/-- The attributes of a grant that are no rights. -/
def trustee : List String := ["Domain", "User"]

/-- The answers that a grant gives: each attribute is one, but for the user and its domain. -/
def permissions (e : Element) : List (String × Bool) :=
  (e.attributes.filter fun a => a.name ∉ trustee).map fun a => (a.name, a.value == "yes")

/-- What a grant on an object of the kind may say. -/
structure Grammar (kind : ObjectKind) (e : Element) : Prop where
  user : e.Present "User" (· ≠ "")
  domain : e.AbsentOr "Domain" (· ≠ "")
  /-- Every other attribute says yes or no to a right of the object. -/
  rights : ∀ a ∈ e.attributes, a.name ∉ trustee →
    a.name ∈ kind.rights ∧ (a.value = "yes" ∨ a.value = "no")
  /-- What is granted is not generic reading alone. -/
  readable : ¬ AccessMask.GenericReadAlone (permissions e)
  childless : e.children = []

/-- What a grant may say, and what it needs to be there. -/
structure Acceptable (setting : Setting) (target : GrantTarget) (objectId componentId : String)
    (e : Element) : Prop where
  grammar : Grammar target.object e
  object : ⟨target.symbol, objectId⟩ ∈ setting.declared
  component : ⟨.component, componentId⟩ ∈ setting.declared
  platform : setting.config.platform ≠ .arm

variable {kind : ObjectKind} {e : Element}

/-! ## Attributes -/

theorem names_rules (kind : ObjectKind) :
    (rules kind).map (·.name) = trustee ++ kind.rights := by
  simp [rules, trustee, AttributeRule.ofReading, Function.comp_def]

theorem nodup_names_rules (kind : ObjectKind) : ((rules kind).map (·.name)).Nodup := by
  rw [names_rules]
  cases kind <;> decide

/-- No right is called as the user or the domain. -/
theorem notMem_trustee_of_mem_rights {name : String} (h : name ∈ kind.rights) :
    name ∉ trustee := by
  have hdisjoint := nodup_names_rules kind
  rw [names_rules] at hdisjoint
  exact fun htrustee => (List.nodup_append.mp hdisjoint).2.2 name htrustee name h rfl

theorem clean_attributes_iff {strict : Bool} (hdistinct : (e.attributes.map (·.name)).Nodup) :
    Assessment.clean strict (AttributeRule.checkAll (rules kind) element e.attributes) = true ↔
      e.AbsentOr "User" (· ≠ "") ∧ e.AbsentOr "Domain" (· ≠ "") ∧
        ∀ a ∈ e.attributes, a.name ∉ trustee →
          a.name ∈ kind.rights ∧ (a.value = "yes" ∨ a.value = "no") := by
  rw [clean_checkAll_iff hdistinct (nodup_names_rules kind), names_rules, rules,
    List.forall_mem_append]
  simp only [List.forall_mem_cons, List.forall_mem_map, List.mem_append, List.not_mem_nil,
    false_implies, implies_true, and_true, content_text_iff, content_yesNo_iff,
    absentOr_iff_of_nodup (P := fun text => text = "yes" ∨ text = "no") hdistinct]
  constructor
  · rintro ⟨hknown, ⟨hdomain, huser⟩, hrights⟩
    refine ⟨huser, hdomain, ?_⟩
    intro a ha hother
    have hright := (hknown a ha).resolve_left hother
    exact ⟨hright, hrights a.name hright a ha rfl⟩
  · rintro ⟨huser, hdomain, hrights⟩
    refine ⟨fun a ha => ?_, ⟨hdomain, huser⟩, ?_⟩
    · by_cases htrustee : a.name ∈ trustee
      · exact .inl htrustee
      · exact .inr (hrights a ha htrustee).1
    · rintro right hright a ha rfl
      exact (hrights a ha (notMem_trustee_of_mem_rights hright)).2

/-- Attributes that are all legal give their answers, and no others. -/
theorem answers_eq (h : ∀ a ∈ e.attributes, a.name ∉ trustee →
    a.name ∈ kind.rights ∧ (a.value = "yes" ∨ a.value = "no")) :
    answers kind e.attributes = permissions e := by
  have hpermissions : permissions e = e.attributes.filterMap fun a =>
      if a.name ∉ trustee then some (a.name, a.value == "yes") else none := by
    rw [permissions, ← List.filterMap_eq_map, List.filterMap_filter]
    simp
  rw [hpermissions, answers]
  refine List.filterMap_congr fun a ha => ?_
  by_cases htrustee : a.name ∈ trustee
  · have hother : ¬ a.name ∈ kind.rights :=
      fun hright => notMem_trustee_of_mem_rights hright htrustee
    simp [htrustee, hother]
  · obtain ⟨hright, hanswer⟩ := h a ha htrustee
    rcases hanswer with hyes | hno
    · simp [htrustee, hright, Attribute.yesNo, hyes]
    · simp [htrustee, hright, Attribute.yesNo, hno]

/-! ## Acceptance -/

theorem clean_maskFaults_iff {target : GrantTarget} {objectId : String} {strict : Bool} :
    Assessment.clean strict (maskFaults target objectId e) = true ↔
      ∃ mask, mask? target.object e.attributes = some mask := by
  rw [maskFaults]
  cases hmask : mask? target.object e.attributes with
  | some mask => simp [Assessment.clean]
  | none =>
    have hfalse : Assessment.clean strict [genericReadAlone target.object objectId e.location] =
        false := Assessment.clean_eq_false_of_mem (List.mem_singleton.mpr rfl) rfl
    simp [hfalse]

/-- What a grant comes to, if its attributes are all legal. -/
theorem exists_mask?_iff (h : ∀ a ∈ e.attributes, a.name ∉ trustee →
    a.name ∈ kind.rights ∧ (a.value = "yes" ∨ a.value = "no")) :
    (∃ mask, mask? kind e.attributes = some mask) ↔
      ¬ AccessMask.GenericReadAlone (permissions e) := by
  simp only [mask?_eq_some_iff, ← answers_eq h]
  exact AccessMask.exists_encode_eq_ok_iff mem_rights_of_mem_answers

variable {setting : Setting} {target : GrantTarget} {objectId componentId : String}

/-- A grant raises no error exactly if it is acceptable. -/
theorem clean_faults_iff {strict : Bool} (hdistinct : (e.attributes.map (·.name)).Nodup) :
    Assessment.clean strict
        (faults setting.config setting.declared target objectId componentId e) = true ↔
      Acceptable setting target objectId componentId e := by
  simp only [faults, Assessment.clean_append, Bool.and_eq_true, clean_attributes_iff hdistinct,
    clean_missingAttributes_iff, List.forall_mem_singleton, clean_unexpectedChildren_iff,
    clean_maskFaults_iff, Symbol.clean_require_iff, clean_secureObjects_iff]
  constructor
  · rintro ⟨⟨⟨⟨⟨⟨⟨huser, hdomain, hrights⟩, hhas⟩, hchildren⟩, hmask⟩, hobject⟩, hcomponent⟩,
      hplatform⟩
    exact ⟨⟨present_iff.mpr ⟨hhas, huser⟩, hdomain, hrights, (exists_mask?_iff hrights).mp hmask,
      hchildren⟩, hobject, hcomponent, hplatform⟩
  · rintro ⟨⟨huser, hdomain, hrights, hreadable, hchildren⟩, hobject, hcomponent, hplatform⟩
    obtain ⟨hhas, huser⟩ := present_iff.mp huser
    exact ⟨⟨⟨⟨⟨⟨⟨huser, hdomain, hrights⟩, hhas⟩, hchildren⟩,
      (exists_mask?_iff hrights).mpr hreadable⟩, hobject⟩, hcomponent⟩, hplatform⟩

/-- What is emitted for a grant that is acceptable. -/
theorem exists_grant (hdistinct : (e.attributes.map (·.name)).Nodup)
    (h : Acceptable setting target objectId componentId e) :
    ∃ user permission action, e.valueOf? "User" = some user ∧
      AccessMask.encode target.object (permissions e) = .ok permission ∧
      (assessOn setting.config setting.declared target objectId componentId e).value =
        some (.grant
          { objectId, objectTable := target.object.table, domain := e.valueOf? "Domain", user
            permission, componentId }
          ⟨target.symbol, objectId⟩ ⟨.component, componentId⟩ action) := by
  have hclean : Assessment.clean setting.config.warningsAsErrors
      (faults setting.config setting.declared target objectId componentId e) = true :=
    (clean_faults_iff hdistinct).mpr h
  obtain ⟨g, hg⟩ := exists_accepted_of_clean hclean
  have hdomain : g.row.domain = e.valueOf? "Domain" :=
    Reads.setting?_text_eq hdistinct h.grammar.domain
  have huser : e.valueOf? "User" = some g.user := by
    rw [← Reads.setting?_text_eq hdistinct (present_iff.mp h.grammar.user).2]
    exact g.user_read
  have hmask := mask?_eq_some_iff.mp g.permission_read
  rw [answers_eq h.grammar.rights] at hmask
  refine ⟨g.user, g.permission, g.action, huser, hmask, ?_⟩
  rw [hg, ← hdomain]
  rfl

end PermissionGrant

/-! ## Grants in runs -/

/-- A grant is assessed on the object and the component of its host. -/
theorem visit_grant (setting : Setting) {h : Host} {e : Element} {target : GrantTarget}
    {objectId componentId : String} (htarget : h.kind.grantTarget? = some target)
    (hobject : h.value? target.idKey = some objectId)
    (hcomponent : h.value? Host.componentId = some componentId)
    (hname : e.name = PermissionGrant.element) (hdistinct : (e.attributes.map (·.name)).Nodup) :
    e.visit setting .full (.host h) =
      .ok (PermissionGrant.assessOn setting.config setting.declared target objectId componentId e,
        none) := by
  have hcompiler : e.name = ElementCompiler.permissionGrant.name := hname
  exact visit_of_assessed (structureFault?_of_name hcompiler hdistinct) hcompiler
    (.permissionGrant h target objectId componentId htarget hobject hcomponent)

/-- In every state, a grant in a host element whose values are supplied adds no error exactly if it
is acceptable. If it is, its row is written, with the union of the rights that it grants; otherwise
the output stays as it is. -/
theorem dispatch_grant (s : UnitState) (setting : Setting) (h : Host) (e : Element)
    {target : GrantTarget} {table objectId componentId : String}
    (hsecures : h.kind.Secures target table) (hobject : h.value? target.idKey = some objectId)
    (hcomponent : h.value? "ComponentId" = some componentId) (hname : e.name = "PermissionEx")
    (hdistinct : (e.attributes.map (·.name)).Nodup) :
    ∃ s' added, s.dispatch setting .full (.host h) e = (s', none) ∧
      s'.log.entries = s.log.entries ++ added ∧
      ((∀ d ∈ added, d.isError = false) ↔
        PermissionGrant.Acceptable setting target objectId componentId e) ∧
      (¬ PermissionGrant.Acceptable setting target objectId componentId e →
        s'.output = s.output) ∧
      (PermissionGrant.Acceptable setting target objectId componentId e →
        ∃ user permission wire,
          let row : PermissionGrantRow :=
            { objectId, objectTable := table, domain := e.valueOf? "Domain", user, permission,
              componentId }
          e.valueOf? "User" = some user ∧
          AccessMask.encode target.object (PermissionGrant.permissions e) = .ok permission ∧
          s'.output.tables = s.output.tables.insert (.permissionGrant row) ∧
          s.output.tables.Gained s'.output.tables [.permissionGrant row] ∧
          (Row.permissionGrant row).columns =
            [.text objectId, .text table, .optional (e.valueOf? "Domain"), .text user,
              .integer wire, .text componentId] ∧
          ∀ bit, (wire.toInt % 2 ^ 32).toNat.testBit bit = true ↔
            target.object.GrantsBit (PermissionGrant.permissions e) bit) := by
  obtain ⟨htarget, rfl⟩ := HostKind.secures_iff.mp hsecures
  have hvisit := visit_grant setting htarget hobject hcomponent hname hdistinct
  let a := PermissionGrant.assessOn setting.config setting.declared target objectId componentId e
  refine ⟨s.absorb [a], a.raised.map (·.graded s.log.strict), ?_, s.entries_absorb_singleton, ?_,
    ?_, ?_⟩
  · rw [s.dispatch_eq_compileAlone hvisit, s.compileAlone_of_visit hvisit]
    rfl
  · rw [← Assessment.clean_iff, PermissionGrant.raised_assessOn]
    exact PermissionGrant.clean_faults_iff hdistinct
  · intro hrefused
    refine s.output_absorb_of_none ?_
    rw [← Option.not_isSome_iff_eq_none, PermissionGrant.isSome_value_assessOn,
      PermissionGrant.raised_assessOn, PermissionGrant.clean_faults_iff hdistinct]
    exact hrefused
  · intro hacceptable
    obtain ⟨user, permission, action, huser, hmask, hvalue⟩ :=
      PermissionGrant.exists_grant hdistinct hacceptable
    refine ⟨user, permission, permission.toInt32, huser, hmask, ?_, ?_, rfl, ?_⟩
    · rw [s.output_absorb_of_some hvalue]
      rfl
    · rw [s.output_absorb_of_some hvalue]
      exact s.output.gained_add _
    · intro bit
      have hwire : permission.toInt32.toInt % 2 ^ 32 = permission.toNat :=
        (toNat_eq_toInt_emod permission).symm
      rw [hwire, Int.toNat_natCast]
      exact AccessMask.testBit_of_encode hmask bit

/-- Reading and generic reading of a file are granted together, though not generic reading alone. -/
theorem dispatch_grant_genericRead :
    let e := { readGrant with attributes := ⟨"GenericRead", "yes", {}⟩ :: readGrant.attributes }
    let target : GrantTarget := ⟨.file, "FileId", .file⟩
    let s := UnitState.start grantSetting.config
    grantedFile.kind.Secures target "File" ∧ grantedFile.value? target.idKey = some "App.exe" ∧
      grantedFile.value? "ComponentId" = some "App" ∧ e.name = "PermissionEx" ∧
      (e.attributes.map (·.name)).Nodup ∧
      PermissionGrant.Acceptable grantSetting target "App.exe" "App" e ∧
      ∃ s', s.dispatch grantSetting .full (.host grantedFile) e = (s', none) ∧
        s'.output.tables = Tables.empty.insert (.permissionGrant
          { objectId := "App.exe", objectTable := "File", domain := none, user := "Everyone"
            permission := 0x80000001, componentId := "App" }) := by
  intro e target s
  have hobject : grantedFile.value? target.idKey = some "App.exe" := by decide
  have hcomponent : grantedFile.value? "ComponentId" = some "App" := by decide
  have hdistinct : (e.attributes.map (·.name)).Nodup := by decide
  obtain ⟨s', added, hdispatch, hentries, hclean, -, hrow⟩ :=
    dispatch_grant s grantSetting grantedFile e .file hobject hcomponent rfl hdistinct
  have hnone : (s.dispatch grantSetting .full (.host grantedFile) e).1.log.entries = [] := by
    decide +kernel
  rw [hdispatch, hentries] at hnone
  have hacceptable : PermissionGrant.Acceptable grantSetting target "App.exe" "App" e :=
    hclean.mp (by simp [List.append_eq_nil_iff.mp hnone])
  obtain ⟨user, permission, wire, huser, hpermission, htables, -⟩ := hrow hacceptable
  obtain rfl : "Everyone" = user := Option.some.inj huser
  have hmask : AccessMask.encode .file (PermissionGrant.permissions e) = .ok 0x80000001 := by
    decide +kernel
  obtain rfl : 0x80000001 = permission := Except.ok.inj (hmask.symm.trans hpermission)
  exact ⟨.file, hobject, hcomponent, rfl, hdistinct, hacceptable, s', hdispatch, htables⟩

end InstallMarkup
