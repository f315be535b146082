import LineageGuard.Scenario.RecordText
import LineageGuard.Scenario.TargetAttestation
import Mathlib.Tactic

/-
This file proves what each part of the bootstrap does and what it relies on.
-/

namespace LineageGuard.Target

open Attempt Dialogue Interleaving JsonText Scenario

section StateText

theorem bindingNode_formed (binding : TargetInstanceBinding) :
    WellFormed (bindingNode binding) := by
  rw [bindingNode, WellFormed, membersFormed_iff]
  intro member present
  simp only [List.mem_cons, List.not_mem_nil, or_false] at present
  rcases present with rfl | rfl | rfl | rfl
  · trivial
  · trivial
  · exact isNumber_wholeText _
  · trivial

theorem loads_encodeBinding (binding : TargetInstanceBinding) :
    loads (encodeBinding binding) = some (bindingNode binding) :=
  loads_text (bindingNode_formed binding)

theorem instanceIdOf_val (identity : InstanceId) :
    instanceIdOf (some (.string identity.val)) = some identity := dif_pos identity.property

theorem parseBinding_bindingNode (binding : TargetInstanceBinding) :
    parseBinding (bindingNode binding) = .ok binding := by
  have keys : sameElements ["canonical_url", "live_instance_id", "schema_version",
      "server_identity"] bindingKeys = true := by decide
  have version : isSchemaVersion (some (.number (wholeText targetStateSchemaVersion))) = true := by
    rw [isSchemaVersion, isRealText_wholeText, wholeNumber_wholeText]
    rfl
  have url : isCanonicalUrl (some (.string canonicalGmsUrl)) = true := by
    rw [isCanonicalUrl, decide_eq_true_eq]
  rw [bindingNode, parseBinding]
  simp only [bind_ok, require_ok, present_ok, exists_const, pure_ok]
  exact ⟨keys, version, url, _, instanceIdOf_val _, _, instanceIdOf_val _, rfl⟩

theorem parseState_encodeBinding (binding : TargetInstanceBinding) :
    parseState (encodeBinding binding) = .ok binding := by
  rw [parseState, loads_encodeBinding]
  exact parseBinding_bindingNode binding

/-- A part of a written binding is no binding. -/
theorem parseState_part {binding : TargetInstanceBinding} {part rest : List Char}
    (split : encodeBinding binding = part ++ rest) (cut : rest ≠ []) :
    parseState part = .error "TARGET_STATE_INVALID" := by
  rw [parseState, loads_part (bindingNode_formed binding) split cut]
  rfl

theorem parseState_begins {binding found : TargetInstanceBinding} {text : List Char}
    (starts : text <+: encodeBinding binding) (parsed : parseState text = .ok found) :
    text = encodeBinding binding ∧ found = binding := by
  obtain ⟨rest, split⟩ := starts
  by_cases cut : rest = []
  · rw [cut, List.append_nil] at split
    rw [split, parseState_encodeBinding, Except.ok.injEq] at parsed
    exact ⟨split, parsed.symm⟩
  · rw [parseState_part split.symm cut] at parsed
    exact nomatch parsed

theorem encodeBinding_begins {binding other : TargetInstanceBinding}
    (starts : encodeBinding other <+: encodeBinding binding) : other = binding :=
  (parseState_begins starts (parseState_encodeBinding other)).2

theorem encodeBinding_inj {binding other : TargetInstanceBinding}
    (same : encodeBinding other = encodeBinding binding) : other = binding :=
  encodeBinding_begins (same ▸ List.prefix_rfl)

theorem escape_hex {char : Char} (hex : isHexChar char = true) : escape char = [char] := by
  have printable : isPrintable char = true := by
    simp only [isHexChar, Bool.or_eq_true, Bool.and_eq_true, decide_eq_true_eq, Char.le_def,
      UInt32.le_iff_toNat_le] at hex
    simp only [isPrintable, Bool.and_eq_true, decide_eq_true_eq, Char.toNat]
    rcases hex with digit | letter
    · exact ⟨le_trans (by decide) digit.1, le_trans digit.2 (by decide)⟩
    · exact ⟨le_trans (by decide) letter.1, le_trans letter.2 (by decide)⟩
  have plain : shortEscapes.lookup char = none := by
    rw [List.lookup_eq_none_iff]
    intro entry present
    have other : isHexChar entry.1 = false := by
      revert entry
      decide
    rw [bne_iff_ne]
    rintro rfl
    rw [hex] at other
    cases other
  rw [escape, plain, if_pos printable]

theorem quote_length (identity : InstanceId) : (quote identity.val).length = 66 := by
  have valid := identity.property
  simp only [isSha256, fullmatch, Bool.and_eq_true, decide_eq_true_eq, List.all_eq_true] at valid
  have escaped : ∀ chars : List Char, (∀ char ∈ chars, isHexChar char = true) →
      chars.flatMap escape = chars := by
    intro chars hex
    induction chars with
    | nil => rfl
    | cons char rest ih =>
        rw [List.flatMap_cons, escape_hex (hex char List.mem_cons_self),
          ih fun other present => hex other (List.mem_cons_of_mem _ present)]
        rfl
  have long : identity.val.toList.length = 64 := le_antisymm valid.1.2 valid.1.1
  rw [quote, escaped _ valid.2, List.length_append, List.length_cons, long]
  rfl

/-- Every written binding is below the size limit of the reader. -/
theorem encodeBinding_length (binding : TargetInstanceBinding) :
    (encodeBinding binding).length ≤ 1024 := by
  have live := quote_length binding.liveInstanceId
  have server := quote_length binding.serverIdentity
  simp only [encodeBinding, bindingNode, write, memberTexts, commaJoin, List.length_cons,
    List.length_append, live, server]
  decide

end StateText

section Discipline

/-- The checks of the server determine its identity. -/
def Server.identity (server : Server) (platform : Platform) (skip : Bool) : Option String :=
  if skip then some (platform.sha256 (identityPayload "local-dev-bypass"))
  else if server.noCode = some "true" ∧ server.telemetryRemoved ≠ some true then
    (server.clientId.filter isClientId).map fun clientId =>
      platform.sha256 (identityPayload clientId)
  else none

/-- The state file holds the whole text of the binding. -/
def Whole (world : World) (binding : TargetInstanceBinding) : Prop :=
  ∃ writer, world.file = some ⟨encodeBinding binding, writer⟩

/-- The marker on the server or on its way is the one of the stored binding. -/
structure Sound (identity : Option String) (world : World) : Prop where
  started : ∀ file ∈ world.file, ∃ binding : TargetInstanceBinding,
    file.text <+: encodeBinding binding ∧ identity = some binding.serverIdentity.val
  marked : ∀ marker ∈ world.marker, ∃ binding, Whole world binding ∧
    marker = targetMarkerAspect binding
  pending : ∀ marker ∈ world.sent, ∃ binding, Whole world binding ∧
    marker = targetMarkerAspect binding
  kept : world.markerRemoved ≠ some true

/-- Nobody else changes a whole file, a file of the process itself or a marker. -/
structure Relies (index : ℕ) (before after : World) : Prop where
  whole : ∀ binding, Whole before binding → after.file = before.file
  own : ∀ file ∈ before.file, file.writer = index → after.file = some file
  marker : ∀ marker ∈ before.marker, after.marker = some marker

/-- The local state, the marker and the server agree on the binding. -/
structure Agreed (identity : Option String) (world : World) (binding : TargetInstanceBinding) :
    Prop where
  whole : Whole world binding
  marker : world.marker = some (targetMarkerAspect binding)
  server : identity = some binding.serverIdentity.val

theorem Whole.unique {world : World} {binding other : TargetInstanceBinding}
    (whole : Whole world binding) (also : Whole world other) : other = binding := by
  obtain ⟨writer, isFile⟩ := whole
  obtain ⟨_, isOther⟩ := also
  rw [isFile, Option.some.injEq, StateFile.mk.injEq] at isOther
  exact encodeBinding_inj isOther.1.symm

theorem Whole.later {index : ℕ} {before after : World} {binding : TargetInstanceBinding}
    (whole : Whole before binding) (changed : Relies index before after) :
    Whole after binding := by
  obtain ⟨writer, isFile⟩ := whole
  exact ⟨writer, (changed.whole binding ⟨writer, isFile⟩).trans isFile⟩

theorem Agreed.later {identity : Option String} {index : ℕ} {before after : World}
    {binding : TargetInstanceBinding} (agreed : Agreed identity before binding)
    (changed : Relies index before after) : Agreed identity after binding :=
  ⟨agreed.whole.later changed, changed.marker _ agreed.marker, agreed.server⟩

theorem Relies.trans {index : ℕ} {first second third : World}
    (before : Relies index first second) (after : Relies index second third) :
    Relies index first third where
  whole binding whole := (after.whole binding (whole.later before)).trans (before.whole binding whole)
  own file isFile isOwn := after.own file (before.own file isFile isOwn) isOwn
  marker marker isMarker := after.marker marker (before.marker marker isMarker)

/-- A world with the same file and the same marker looks the same to every process. -/
theorem Relies.same {index : ℕ} {before after : World} (file : after.file = before.file)
    (marker : after.marker = before.marker) : Relies index before after where
  whole _ _ := file
  own _ isFile _ := file.trans isFile
  marker _ isMarker := marker.trans isMarker

def bootstrapDiscipline (identity : Option String) : Interleaving.Discipline World where
  invariant := Sound identity
  rely := Relies
  refl _ _ := Relies.same rfl rfl
  trans := Relies.trans

theorem Sound.empty (identity : Option String) : Sound identity World.empty where
  started := nofun
  marked := nofun
  pending := nofun
  kept := nofun

/-- Without a whole file there is no marker. -/
theorem Sound.unmarked {identity : Option String} {world : World} (sound : Sound identity world)
    (partly : ∀ binding, ¬ Whole world binding) : world.marker = none ∧ world.sent = [] := by
  constructor
  · rw [Option.eq_none_iff_forall_not_mem]
    intro marker isMarker
    obtain ⟨binding, whole, _⟩ := sound.marked marker isMarker
    exact partly binding whole
  · rw [List.eq_nil_iff_forall_not_mem]
    intro marker isMarker
    obtain ⟨binding, whole, _⟩ := sound.pending marker isMarker
    exact partly binding whole

theorem Sound.identity_eq {identity : Option String} {world : World} (sound : Sound identity world)
    {binding : TargetInstanceBinding} (whole : Whole world binding) :
    identity = some binding.serverIdentity.val := by
  obtain ⟨writer, isFile⟩ := whole
  obtain ⟨other, starts, same⟩ := sound.started _ isFile
  rwa [encodeBinding_begins starts]

theorem Sound.agreed {identity : Option String} {world : World} (sound : Sound identity world)
    {binding : TargetInstanceBinding} (whole : Whole world binding)
    {marker : DataPlatformInstanceProperties} (isMarker : world.marker = some marker) :
    Agreed identity world binding := by
  obtain ⟨other, also, same⟩ := sound.marked marker isMarker
  rw [whole.unique also] at same
  exact ⟨whole, isMarker.trans (congrArg some same), sound.identity_eq whole⟩

/-- What the reader accepts is the whole text of the file. -/
theorem Sound.parsed {identity : Option String} {world : World} (sound : Sound identity world)
    {binding : TargetInstanceBinding}
    (parsed : parseState ((world.file.map fun file => file.text.take 1025).getD []) = .ok binding) :
    Whole world binding := by
  cases isFile : world.file with
  | none =>
      rw [isFile] at parsed
      exact nomatch parsed
  | some file =>
      rw [isFile] at parsed
      obtain ⟨other, starts, _⟩ := sound.started file isFile
      obtain ⟨isText, rfl⟩ := parseState_begins ((List.take_prefix _ _).trans starts) parsed
      have whole : file.text = encodeBinding binding := by
        refine starts.eq_of_length (le_antisymm starts.length_le ?_)
        rw [← isText]
        exact (List.take_prefix _ _).length_le
      exact ⟨file.writer, by rw [isFile, ← whole]⟩

end Discipline

section Reads

variable {platform : Platform} {server : Server} {skip : Bool} {graph : ExpectedGraph}

theorem readServerIdentity_quiet :
    Quiet (target platform server) (readServerIdentity platform skip) := by
  cases skip with
  | true => trivial
  | false =>
      refine Quiet.read (fun _ _ _ => rfl) fun config => Quiet.settled fun _ => ?_
      refine Quiet.read (fun _ _ _ => rfl) fun status => Quiet.settled fun _ => ?_
      exact Quiet.read (fun _ _ _ => rfl) fun telemetry => Quiet.settled fun _ => trivial

theorem absent_quiet (urns : List String) : Quiet (target platform server) (absent urns) := by
  induction urns with
  | nil => trivial
  | cons urn rest ih => exact Quiet.read (fun _ _ _ => rfl) fun found => Quiet.settled fun _ => ih

theorem readMarker_quiet : Quiet (target platform server) (readMarker platform) := by
  refine Quiet.read (fun _ _ _ => rfl) fun aspect => ?_
  cases aspect with
  | none => exact Quiet.read (fun _ _ _ => rfl) fun found => Quiet.settled fun _ => trivial
  | some aspect => exact Quiet.read (fun _ _ _ => rfl) fun status => Quiet.settled fun _ => trivial

theorem loadOptional_quiet : Quiet (target platform server) loadOptional := by
  refine Quiet.read (fun _ _ _ => rfl) fun opened => ?_
  cases opened with
  | false => trivial
  | true =>
      refine Quiet.read (fun _ _ _ => rfl) fun size => Quiet.settled fun _ => ?_
      exact Quiet.read (fun _ _ _ => rfl) fun text => Quiet.settled fun _ => trivial

theorem loadRequired_quiet : Quiet (target platform server) loadRequired :=
  loadOptional_quiet.bind fun _ => trivial

theorem attestTargetInstance_quiet (url : String) :
    Quiet (target platform server) (attestTargetInstance platform skip url) := by
  refine Quiet.settled fun _ => loadRequired_quiet.bind fun binding => ?_
  refine readServerIdentity_quiet.bind fun observed => Quiet.settled fun _ => ?_
  refine readMarker_quiet.bind fun found => Quiet.settled fun marker => ?_
  exact Quiet.settled fun _ => trivial

end Reads

section Steps

variable {platform : Platform} {server : Server} {skip : Bool} {graph : ExpectedGraph}
variable {index : ℕ} {world : World}

/-- The calls of a bootstrap keep this discipline. -/
abbrev BootstrapSafe (platform : Platform) (server : Server) (skip : Bool) {Value : Type}
    (ending : World → Value → Prop) (index : ℕ) (world : World) (program : Remote Value) : Prop :=
  Safe (bootstrapDiscipline (server.identity platform skip)) (target platform server) ending index
    world program

theorem readServerIdentity_safe : BootstrapSafe platform server skip
    (fun _ found => server.identity platform skip = some found) index world
    (readServerIdentity platform skip) := by
  cases skip with
  | true => exact Safe.pure fun _ _ _ => rfl
  | false =>
      refine Safe.read (fun _ _ => rfl) fun _ _ _ _ => Safe.settled fun _ configured => ?_
      refine Safe.read (fun _ _ => rfl) fun _ _ _ _ => Safe.settled fun _ present => ?_
      refine Safe.read (fun _ _ => rfl) fun _ _ _ _ => Safe.settled fun clientId found => ?_
      have known : server.clientId.filter isClientId = some clientId := present_ok.mp found
      refine Safe.pure fun _ _ _ => ?_
      rw [Server.identity, if_neg Bool.false_ne_true,
        if_pos ⟨require_ok.mp configured, require_ok.mp present⟩, known]
      rfl

theorem readMarker_safe : BootstrapSafe platform server skip
    (fun later found => ∀ marker ∈ found, later.marker = some marker) index world
    (readMarker platform) := by
  refine Safe.read (fun _ _ => rfl) fun between _ _ _ => ?_
  generalize isMarker : ((target platform server).respond index _ between .markerProperties).1 =
    found
  cases found with
  | none =>
      refine Safe.read (fun _ _ => rfl) fun _ _ _ _ => Safe.settled fun _ _ => ?_
      refine Safe.pure fun _ _ _ marker found => ?_
      cases found
  | some aspect =>
      refine Safe.read (fun _ _ => rfl) fun after others _ _ => Safe.settled fun _ _ => ?_
      refine Safe.pure fun later changed _ marker found => ?_
      cases found
      exact (others.trans changed).marker aspect isMarker

theorem loadOptional_safe : BootstrapSafe platform server skip
    (fun later found => ∀ binding ∈ found, Whole later binding) index world loadOptional := by
  refine Safe.read (fun _ _ => rfl) fun opened _ _ _ => ?_
  show Safe _ _ _ _ _ (if opened.file.isSome = true then _ else _)
  split
  · refine Safe.read (fun _ _ => rfl) fun _ _ _ _ => Safe.settled fun _ _ => ?_
    refine Safe.read (fun _ _ => rfl) fun between _ kept _ => Safe.settled fun binding parsed => ?_
    refine Safe.pure fun later changed _ found isFound => ?_
    cases isFound
    exact (kept.parsed parsed).later changed
  · refine Safe.pure fun _ _ _ binding found => ?_
    cases found

theorem loadRequired_safe (kept : Sound (server.identity platform skip) world) :
    BootstrapSafe platform server skip Whole index world loadRequired := by
  refine loadOptional_safe.andThen kept fun later found _ whole => ?_
  cases found with
  | none => trivial
  | some binding => exact fun after changed _ => (whole binding rfl).later changed

/-- A process may write to the file while it is its own and no text is whole. -/
theorem Sound.writes {identity : Option String} (sound : Sound identity world)
    (partly : ∀ binding, ¬ Whole world binding) (own : ∀ file ∈ world.file, file.writer = index)
    {binding : TargetInstanceBinding} {text : List Char} (starts : text <+: encodeBinding binding)
    (identified : identity = some binding.serverIdentity.val) :
    (bootstrapDiscipline identity).Allowed index world
      { world with file := some ⟨text, index⟩ } := by
  obtain ⟨unmarked, unsent⟩ := sound.unmarked partly
  refine ⟨⟨fun file found => ?_, fun marker found => ?_, fun marker found => ?_, sound.kept⟩,
    fun other apart => ⟨fun found whole => absurd whole (partly found), fun file found isOwn => ?_,
      fun _ found => found⟩⟩
  · cases found
    exact ⟨binding, starts, identified⟩
  · exact nomatch unmarked.symm.trans found
  · exact nomatch (unsent ▸ found : marker ∈ [])
  · exact absurd (isOwn.symm.trans (own file found)) apart

/-- The process that created the file completes its text. -/
theorem writeAll_safe {binding : TargetInstanceBinding}
    (identified : server.identity platform skip = some binding.serverIdentity.val)
    {written rest : List Char} (split : encodeBinding binding = written ++ rest)
    (own : world.file = some ⟨written, index⟩) :
    BootstrapSafe platform server skip (fun later _ => Whole later binding) index world
      (writeAll rest) := by
  induction rest generalizing written world with
  | nil =>
      refine Safe.pure fun later changed _ => ?_
      rw [List.append_nil] at split
      have whole : Whole world binding := ⟨index, by rw [own, split]⟩
      exact whole.later changed
  | cons char rest ih =>
      refine Safe.perform fun between others kept choice => ?_
      have isFile : between.file = some ⟨written, index⟩ := others.own _ own rfl
      have partly : ∀ other, ¬ Whole between other := by
        rintro other ⟨writer, isOther⟩
        rw [isFile, Option.some.injEq, StateFile.mk.injEq] at isOther
        have same : other = binding :=
          encodeBinding_begins ⟨char :: rest, by rw [← isOther.1, split]⟩
        rw [isOther.1, same] at split
        exact List.cons_ne_nil _ _ (List.self_eq_append_right.mp split)
      have grown : ((target platform server).respond index choice between (.writeState char)).2 =
          { between with file := some ⟨written ++ [char], index⟩ } := by
        show { between with file := between.file.map fun file => _ } = _
        rw [isFile]
        rfl
      have others : encodeBinding binding = written ++ [char] ++ rest := by
        rw [split, List.append_assoc, List.singleton_append]
      rw [grown]
      refine ⟨Sound.writes kept partly (fun file found => ?_) ⟨rest, others.symm⟩ identified,
        ih others rfl⟩
      rw [isFile] at found
      cases found
      rfl

theorem create_safe {serverIdentity : String}
    (identified : server.identity platform skip = some serverIdentity) :
    BootstrapSafe platform server skip Whole index world (create serverIdentity) := by
  refine Safe.settled fun identity valid => Safe.read (fun _ _ => rfl) fun _ _ _ choice => ?_
  have known : server.identity platform skip = some identity.val := by
    have found := present_ok.mp valid
    rw [instanceIdOf] at found
    split_ifs at found
    cases found
    exact identified
  refine Safe.perform fun between others kept turn => ?_
  by_cases empty : between.file = none
  · have created : (target platform server).respond index turn between .createState =
        (true, { between with file := some ⟨[], index⟩ }) := if_pos (by rw [empty]; rfl)
    have partly : ∀ other, ¬ Whole between other := by
      rintro other ⟨writer, isOther⟩
      exact nomatch empty.symm.trans isOther
    have own : ∀ file ∈ between.file, file.writer = index := fun file found =>
      nomatch empty.symm.trans found
    have starts : [] <+: encodeBinding ⟨choice.token, identity⟩ := List.nil_prefix
    have allowed := Sound.writes kept partly own starts known
    rw [created]
    refine ⟨allowed, (writeAll_safe known (List.nil_append _).symm rfl).andThen allowed.1 ?_⟩
    intro later _ _ whole
    exact fun after changed _ => whole.later changed
  · have missed : (target platform server).respond index turn between .createState =
        (false, between) := if_neg (by rwa [Option.isNone_iff_eq_none])
    rw [missed]
    exact ⟨⟨kept, fun other _ => Relies.same rfl rfl⟩, loadRequired_safe kept⟩

theorem checkMarker_ok {binding : TargetInstanceBinding} {marker : DataPlatformInstanceProperties} :
    checkMarker binding marker = .ok () ↔ marker = targetMarkerAspect binding := by
  simp only [checkMarker, bind_ok, present_ok, require_ok, exists_const]
  constructor
  · rintro ⟨_, _, _, _, same⟩
    exact same
  · rintro rfl
    refine ⟨_, rfl, ?_, rfl, rfl⟩
    intro empty
    have valid := binding.liveInstanceId.property
    rw [show binding.liveInstanceId.val = "" from Option.some.inj empty] at valid
    exact absurd valid (by decide)

/-- The attestation succeeds only when both sides and the server agree. -/
theorem attestTargetInstance_safe (url : String) (kept : Sound (server.identity platform skip) world) :
    BootstrapSafe platform server skip (Agreed (server.identity platform skip)) index world
      (attestTargetInstance platform skip url) := by
  refine Safe.settled fun _ _ => ?_
  refine (loadRequired_safe kept).andThen kept fun first binding kept whole => ?_
  refine readServerIdentity_safe.after readServerIdentity_quiet kept fun second observed kept
    others identified => Safe.settled fun _ same => ?_
  refine readMarker_safe.after readMarker_quiet kept fun third found kept changed isMarker =>
    Safe.settled fun marker present => Safe.settled fun _ checked => Safe.pure ?_
  have isWhole : Whole third binding := (whole.later others).later changed
  have agreed : Agreed (server.identity platform skip) third binding :=
    ⟨isWhole, (isMarker marker (present_ok.mp present)).trans
      (congrArg some (checkMarker_ok.mp checked)), identified.trans (by rw [require_ok.mp same])⟩
  exact fun later changed _ => agreed.later changed

/-- A plan has the stored binding, and the marker is the one of a plan that found it. -/
structure Planned (identity : Option String) (world : World) (plan : TargetBootstrapPlan) :
    Prop where
  whole : Whole world plan.binding
  agreed : plan.alreadyBootstrapped = true → Agreed identity world plan.binding

theorem planBinding_safe {serverIdentity : String} {stored : Option TargetInstanceBinding}
    (identified : server.identity platform skip = some serverIdentity)
    (whole : ∀ binding ∈ stored, Whole world binding) :
    BootstrapSafe platform server skip Whole index world (planBinding serverIdentity stored) := by
  cases stored with
  | none => exact create_safe identified
  | some binding =>
      exact Safe.settled fun _ _ => Safe.pure fun later changed _ => (whole binding rfl).later changed

theorem prepareTargetBootstrap_safe (url : String)
    (kept : Sound (server.identity platform skip) world) :
    BootstrapSafe platform server skip (Planned (server.identity platform skip)) index world
      (prepareTargetBootstrap platform skip graph url) := by
  refine Safe.settled fun _ _ => ?_
  refine readServerIdentity_safe.andThen kept fun first serverIdentity kept identified => ?_
  refine ((absent_quiet _).safe (Relies.same rfl rfl)).andThen kept fun second _ kept _ => ?_
  refine readMarker_safe.andThen kept fun third marker kept _ => ?_
  refine loadOptional_safe.andThen kept fun fourth stored kept whole => ?_
  cases marker with
  | some _ =>
      refine Safe.settled fun binding present => ?_
      have isWhole : Whole fourth binding := whole binding (present_ok.mp present)
      refine (attestTargetInstance_safe url kept).after (attestTargetInstance_quiet url) kept
        fun fifth observed kept others agreed => Safe.pure fun later changed _ => ?_
      have same : observed = binding := (isWhole.later others).unique agreed.whole
      rw [same] at agreed
      exact ⟨(agreed.later changed).whole, fun _ => agreed.later changed⟩
  | none =>
      refine (planBinding_safe identified whole).andThen kept fun fifth binding kept whole => ?_
      exact Safe.pure fun later changed _ => ⟨whole.later changed, nofun⟩

/-- The creation of the marker of the stored binding changes nothing else. -/
theorem Sound.creates {identity : Option String} (sound : Sound identity world)
    {binding : TargetInstanceBinding} (whole : Whole world binding) :
    Sound identity (world.createMarker (targetMarkerAspect binding)) ∧
      ∀ index, Relies index world (world.createMarker (targetMarkerAspect binding)) := by
  rw [World.createMarker]
  split
  · next unmarked =>
      rw [Option.isNone_iff_eq_none] at unmarked
      refine ⟨⟨sound.started, fun marker found => ?_, sound.pending, sound.kept⟩,
        fun index => ⟨fun _ _ => rfl, fun _ found _ => found, fun marker found => ?_⟩⟩
      · cases found
        exact ⟨binding, whole, rfl⟩
      · exact nomatch unmarked.symm.trans found
  · exact ⟨sound, fun index => Relies.same rfl rfl⟩

theorem Sound.sends {identity : Option String} (sound : Sound identity world)
    {binding : TargetInstanceBinding} (whole : Whole world binding) :
    Sound identity { world with sent := targetMarkerAspect binding :: world.sent } where
  started := sound.started
  marked := sound.marked
  pending marker found := by
    rcases List.mem_cons.mp found with rfl | earlier
    · exact ⟨binding, whole, rfl⟩
    · exact sound.pending marker earlier
  kept := sound.kept

/-- The marker of the stored binding is created, and a late arrival creates the same one. -/
theorem createMarker_safe {binding : TargetInstanceBinding} (whole : Whole world binding)
    (kept : Sound (server.identity platform skip) world) :
    BootstrapSafe platform server skip (fun later _ => Whole later binding) index world
      (createMarker platform skip graph binding) := by
  refine ((absent_quiet _).safe (Relies.same rfl rfl)).after (absent_quiet _) kept
    fun first _ kept others _ => ?_
  refine readMarker_safe.after readMarker_quiet kept fun second _ kept also _ =>
    Safe.settled fun _ _ => ?_
  refine readServerIdentity_safe.after readServerIdentity_quiet kept fun third _ kept further _ =>
    Safe.settled fun _ _ => Safe.perform fun between last kept choice => ?_
  have isWhole : Whole between binding :=
    (((whole.later others).later also).later further).later last
  cases answered : choice.answered with
  | true =>
      obtain ⟨sound, same⟩ := Sound.creates kept isWhole
      have created : (target platform server).respond index choice between
          (.createMarker (targetMarkerAspect binding)) =
            (between.marker.isNone, between.createMarker (targetMarkerAspect binding)) :=
        if_pos answered
      rw [created]
      refine ⟨⟨sound, fun other _ => same other⟩, ?_⟩
      cases between.marker.isNone with
      | true => exact fun later changed _ => (isWhole.later (same index)).later changed
      | false => trivial
  | false =>
      have lost : (target platform server).respond index choice between
          (.createMarker (targetMarkerAspect binding)) =
            (false, { between with sent := targetMarkerAspect binding :: between.sent }) :=
        if_neg (by rw [answered]; exact Bool.false_ne_true)
      rw [lost]
      exact ⟨⟨Sound.sends kept isWhole, fun other _ => Relies.same rfl rfl⟩, trivial⟩

theorem completeTargetBootstrap_safe {plan : TargetBootstrapPlan} (whole : Whole world plan.binding)
    (kept : Sound (server.identity platform skip) world) :
    BootstrapSafe platform server skip (Agreed (server.identity platform skip)) index world
      (completeTargetBootstrap platform skip graph plan) := by
  have created : BootstrapSafe platform server skip (fun later _ => Whole later plan.binding) index
      world (ensureMarker platform skip graph plan) := by
    rw [ensureMarker]
    split
    · exact Safe.pure fun later changed _ => whole.later changed
    · exact createMarker_safe whole kept
  refine created.andThen kept fun first _ kept _ => ?_
  refine (attestTargetInstance_safe _ kept).andThen kept fun second observed kept agreed =>
    Safe.settled fun _ _ => ?_
  exact ((absent_quiet _).safe (Relies.same rfl rfl)).andThen kept fun third _ _ others =>
    Safe.pure fun later changed _ => (agreed.later others).later changed

/-- A reported fingerprint is the one of the binding on which both sides agree. -/
def Reported (platform : Platform) (identity : Option String) (world : World)
    (result : BootstrapResult) : Prop :=
  ∀ fingerprint ∈ result.targetFingerprint, ∃ binding, Agreed identity world binding ∧
    fingerprint = targetFingerprint platform binding

theorem executeBootstrap_safe {invocation : Invocation} (url : String)
    (kept : Sound (server.identity platform skip) world) :
    BootstrapSafe platform server skip (Reported platform (server.identity platform skip)) index
      world (executeBootstrap platform skip graph invocation url) := by
  refine (prepareTargetBootstrap_safe url kept).andThen kept fun first plan kept planned => ?_
  split
  · next already =>
      refine Safe.pure fun later changed _ fingerprint isFingerprint => ?_
      cases isFingerprint
      exact ⟨plan.binding, (planned.agreed already).later changed, rfl⟩
  · refine (prepareTargetBootstrap_safe url kept).andThen kept fun second repeated kept again =>
      Safe.settled fun _ same => Safe.settled fun _ _ => Safe.settled fun _ _ => ?_
    have whole := again.whole
    rw [require_ok.mp same] at whole
    refine (completeTargetBootstrap_safe whole kept).andThen kept fun third binding kept agreed => ?_
    refine Safe.pure fun later changed _ fingerprint isFingerprint => ?_
    cases isFingerprint
    exact ⟨binding, agreed.later changed, rfl⟩

theorem bootstrapTarget_safe {invocation : Invocation}
    (kept : Sound (server.identity platform skip) world) :
    BootstrapSafe platform server skip (Reported platform (server.identity platform skip)) index
      world (bootstrapTarget platform skip graph invocation) := by
  rw [bootstrapTarget]
  split
  · exact Safe.settled fun _ _ => Safe.settled fun _ _ => Safe.settled fun url _ =>
      executeBootstrap_safe url kept
  · refine Safe.pure fun _ _ _ fingerprint reported => ?_
    cases reported

/-- An outcome is backed by both sides and by the server from then on. -/
def Outcome.Backed (platform : Platform) (identity : Option String) (world : World) :
    Outcome → Prop
  | .reported result => Reported platform identity world result
  | .bound binding => Agreed identity world binding

theorem taskProgram_safe (task : Task) (kept : Sound (server.identity platform skip) world) :
    BootstrapSafe platform server skip
      (Outcome.Backed platform (server.identity platform skip)) index world
      (taskProgram platform skip graph task) := by
  cases task with
  | bootstrap invocation =>
      refine (bootstrapTarget_safe kept).andThen kept fun first result kept reported => ?_
      refine Safe.pure fun later changed _ fingerprint isFingerprint => ?_
      obtain ⟨binding, agreed, same⟩ := reported fingerprint isFingerprint
      exact ⟨binding, agreed.later changed, same⟩
  | prepareAndComplete url =>
      refine (prepareTargetBootstrap_safe url kept).andThen kept fun first plan kept planned => ?_
      refine (completeTargetBootstrap_safe planned.whole kept).andThen kept
        fun second binding kept agreed => ?_
      exact Safe.pure fun later changed _ => agreed.later changed
  | attest url =>
      refine (attestTargetInstance_safe url kept).andThen kept fun first binding kept agreed => ?_
      exact Safe.pure fun later changed _ => agreed.later changed

theorem changeWorld_safe (change : Change) {identity : Option String} (kept : Sound identity world) :
    Sound identity (changeWorld change world) ∧
      ∀ index, Relies index world (changeWorld change world) := by
  cases change with
  | appear urn =>
      exact ⟨⟨kept.started, kept.marked, kept.pending, kept.kept⟩, fun _ => Relies.same rfl rfl⟩
  | vanish urn =>
      exact ⟨⟨kept.started, kept.marked, kept.pending, kept.kept⟩, fun _ => Relies.same rfl rfl⟩
  | arrive index =>
      rw [changeWorld]
      split
      · next aspect isAspect =>
          obtain ⟨binding, whole, rfl⟩ := kept.pending aspect (List.mem_of_getElem? isAspect)
          exact kept.creates whole
      · exact ⟨kept, fun _ => Relies.same rfl rfl⟩

/-- Every pool that the processes reach keeps the discipline. -/
theorem processes_kept {pool : Processes}
    (reached : Runs.Reachable (processStep platform server skip graph) Processes.start pool) :
    Kept (bootstrapDiscipline (server.identity platform skip)) (target platform server)
      (Outcome.Backed platform (server.identity platform skip)) pool := by
  refine Kept.run ⟨Sound.empty _, fun index program held => ?_⟩
    (fun task index world kept => taskProgram_safe task kept)
    (fun change world kept => changeWorld_safe change kept) reached
  rw [Processes.start, List.getElem?_nil] at held
  exact nomatch held

end Steps

end LineageGuard.Target
