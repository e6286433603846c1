import Custody.Command.Report
import Custody.Proofs.Hexadecimal
import Custody.Proofs.JsonText
import Custody.Settings

-- What is written is read back as it was, whatever the order in which the fields of its tables come
-- to stand. A codec is faithful if that is so for all values; every way to build codecs keeps it,
-- so it holds of all that the program can write.

namespace Custody.Document

mutual

-- A node with the fields of some of its tables in another order, at any depth.
inductive Node.Reordered : Node → Node → Prop where
  | same : Reordered node node
  | list (inside : AllReordered nodes others) :
      Reordered (.list nodes closed) (.list others closed)
  | table (inside : FieldsReordered pairs others) (order : others.Perm last) :
      Reordered (.table pairs closed) (.table last closed)

inductive Node.AllReordered : List Node → List Node → Prop where
  | nil : AllReordered [] []
  | cons (first : Reordered node other) (rest : AllReordered nodes others) :
      AllReordered (node :: nodes) (other :: others)

inductive Node.FieldsReordered :
    List (Option String × Node) → List (Option String × Node) → Prop where
  | nil : FieldsReordered [] []
  | cons (first : Reordered node other) (rest : FieldsReordered pairs others) :
      FieldsReordered ((key,node) :: pairs) ((key,other) :: others)

end

namespace Node

theorem allReordered_self (nodes : List Node) : AllReordered nodes nodes := by
  induction nodes with
  | nil => exact .nil
  | cons node rest ih => exact .cons .same ih

theorem fieldsReordered_self (pairs : List (Option String × Node)) :
    FieldsReordered pairs pairs := by
  induction pairs with
  | nil => exact .nil
  | cons pair rest ih => exact .cons .same ih

theorem Reordered.text (reordered : (Node.text written).Reordered node) : node = .text written := by
  cases reordered with
  | same => rfl

theorem Reordered.null (reordered : Reordered node .null) : node = .null := by
  cases reordered with
  | same => rfl

theorem Reordered.items (reordered : (Node.items nodes).Reordered node) :
    ∃ others, node = .items others ∧ AllReordered nodes others := by
  cases reordered with
  | same => exact ⟨nodes,rfl,allReordered_self nodes⟩
  | list inside => exact ⟨_,rfl,inside⟩

theorem Reordered.fields (reordered : (Node.fields pairs).Reordered node) :
    ∃ others last, node = .table last true ∧
      FieldsReordered (pairs.map fun pair => (some pair.1,pair.2)) others ∧ others.Perm last := by
  cases reordered with
  | same => exact ⟨_,_,rfl,fieldsReordered_self _,.refl _⟩
  | table inside order => exact ⟨_,_,rfl,inside,order⟩

theorem AllReordered.source (inside : AllReordered nodes others) (member : other ∈ others) :
    ∃ node ∈ nodes, node.Reordered other := by
  induction nodes generalizing others with
  | nil => cases inside; cases member
  | cons node rest ih =>
    cases inside with
    | cons first later =>
      rcases List.mem_cons.mp member with rfl | among
      · exact ⟨node,.head _,first⟩
      · obtain ⟨node,found,reordered⟩ := ih later among
        exact ⟨node,.tail _ found,reordered⟩

theorem FieldsReordered.keys (inside : FieldsReordered pairs others) :
    others.map (·.1) = pairs.map (·.1) := by
  induction pairs generalizing others with
  | nil => cases inside; rfl
  | cons pair rest ih =>
    cases inside with
    | cons first later => rw [List.map_cons,List.map_cons,ih later]

theorem FieldsReordered.source (inside : FieldsReordered pairs others)
    (member : (key,other) ∈ others) : ∃ node, (key,node) ∈ pairs ∧ node.Reordered other := by
  induction pairs generalizing others with
  | nil => cases inside; cases member
  | cons pair rest ih =>
    cases inside with
    | cons first later =>
      rcases List.mem_cons.mp member with same | among
      · cases same
        exact ⟨_,.head _,first⟩
      · obtain ⟨node,found,reordered⟩ := ih later among
        exact ⟨node,.tail _ found,reordered⟩

theorem Reordered.plain (reordered : Reordered node other) (plain : node.Plain) : other.Plain := by
  induction plain generalizing other with
  | null => cases reordered; exact .null
  | boolean => cases reordered; exact .boolean
  | natural small => cases reordered; exact .natural small
  | text => cases reordered; exact .text
  | list inside each =>
    cases reordered with
    | same => exact .list inside
    | list others =>
      refine .list fun other member => ?_
      obtain ⟨node,among,first⟩ := others.source member
      exact each node among first
  | table named inside each =>
    cases reordered with
    | same => exact .table named inside
    | table others order =>
      have sources {pair : Option String × Node} (member : pair ∈ _) :=
        others.source (order.mem_iff.mpr member)
      refine .table (fun pair member => ?_) fun pair member => ?_
      · obtain ⟨node,among,_⟩ := sources member
        exact named (pair.1,node) among
      · obtain ⟨node,among,first⟩ := sources member
        exact each _ among first

end Node

-- A codec that writes plain nodes and reads what it has written, whatever the order of fields.
structure Codec.Faithful {α : Type} (codec : Codec α) : Prop where
  plain (value : α) : (codec.encode value).Plain
  reads (place : Place) (value : α) (node : Node) :
    (codec.encode value).Reordered node → codec.decode place node = .ok value

namespace Codec

variable {α β : Type} {codec : Codec α}

theorem textNamed_faithful (expected : String) : (textNamed expected).Faithful where
  plain _ := .text
  reads place value node reordered := by
    cases reordered.text
    rfl

theorem boolean_faithful : boolean.Faithful where
  plain _ := .boolean
  reads place value node reordered := by
    cases reordered
    rfl

theorem natural_decode {largest : Nat} (small : value ≤ largest) (expected : String) (place : Place)
    (reordered : ((natural largest expected).encode value).Reordered node) :
    (natural largest expected).decode place node = .ok value := by
  cases reordered
  have bounds : (0 : Int) ≤ value ∧ (value : Int) ≤ largest := by omega
  simp only [natural,if_pos bounds]
  rfl

theorem uint8_faithful : uint8.Faithful where
  plain value := .natural (Nat.lt_trans value.toNat_lt (by decide))
  reads place value node reordered := by
    have small : value.toNat ≤ 255 := Nat.le_of_lt_succ value.toNat_lt
    have read := natural_decode small "u8" place reordered
    simp only [uint8,imap,read,Except.map,UInt8.ofNat_toNat]

theorem uint32_faithful : uint32.Faithful where
  plain value := .natural (Nat.lt_trans value.toNat_lt (by decide))
  reads place value node reordered := by
    have small : value.toNat ≤ 4294967295 := Nat.le_of_lt_succ value.toNat_lt
    have read := natural_decode small "u32" place reordered
    simp only [uint32,imap,read,Except.map,UInt32.ofNat_toNat]

theorem imap_faithful (faithful : codec.Faithful) {wrap : α → β} {unwrap : β → α}
    (whole : ∀ value, wrap (unwrap value) = value) : (codec.imap wrap unwrap).Faithful where
  plain value := faithful.plain (unwrap value)
  reads place value node reordered := by
    simp only [imap,faithful.reads place (unwrap value) node reordered,Except.map,whole]

theorem parsed_faithful {parse : String → Except String α} {write : α → String}
    (parses : ∀ value, parse (write value) = .ok value) : (parsed parse write).Faithful where
  plain _ := .text
  reads place value node reordered := by
    cases reordered.text
    simp only [parsed,text,textNamed,parses]
    rfl

theorem optional_faithful (faithful : codec.Faithful)
    (present : ∀ value, codec.encode value ≠ .null) : codec.optional.Faithful where
  plain
    | none => .null
    | some value => faithful.plain value
  reads place value node reordered := by
    cases value with
    | none => cases reordered; rfl
    | some value =>
      have written : (codec.encode value).Reordered node := reordered
      have read := faithful.reads place value node written
      cases node with
      | null => exact absurd written.null (present value)
      | _ => simp only [optional,read]; rfl

theorem decodeAll_reordered (faithful : codec.Faithful) (place : Place) {values : List α}
    (inside : Node.AllReordered (values.map codec.encode) nodes) :
    decodeAll (codec.decode place) nodes = .ok values := by
  induction values generalizing nodes with
  | nil => cases inside; rfl
  | cons value rest ih =>
    cases inside with
    | cons first later =>
      simp only [decodeAll,faithful.reads place value _ first,ih later]
      rfl

theorem list_faithful (faithful : codec.Faithful) : codec.list.Faithful where
  plain values := by
    refine .list fun node member => ?_
    obtain ⟨value,_,rfl⟩ := List.mem_map.mp member
    exact faithful.plain value
  reads place values node reordered := by
    obtain ⟨nodes,rfl,inside⟩ := reordered.items
    simp only [list,Node.items,decodeAll_reordered faithful place.inside inside]
    rfl

theorem oneOf_faithful {all : List α} {name : α → String}
    (distinct : ∀ value, all.find? (fun other => name other == name value) = some value) :
    (oneOf all name).Faithful where
  plain _ := .text
  reads place value node reordered := by
    cases reordered.text
    simp only [oneOf,named,distinct]

end Codec

namespace Shape

def AllFaithful : Shape → Prop
  | [] => True
  | field :: rest => field.codec.Faithful ∧ AllFaithful rest

-- Whether a field is what has been written of the values, with its own fields in any order.
def Holds : (shape : Shape) → Values shape → String → Node → Prop
  | [],_,_,_ => False
  | field :: rest,(value,values),key,node =>
    key = field.name ∧ (field.codec.encode value).Reordered node ∨
      key ≠ field.name ∧ Holds rest values key node

-- The slots once the fields with some names have been read.
def partly (known : String → Bool) : (shape : Shape) → Values shape → Slots shape
  | [],_ => ()
  | field :: rest,(value,values) =>
    (if known field.name then some value else none,partly known rest values)

theorem blank_partly (shape : Shape) (values : Values shape) :
    blank shape = partly (fun _ => false) shape values := by
  induction shape with
  | nil => rfl
  | cons field rest ih => exact Prod.ext rfl (ih values.2)

theorem partly_congr {known others : String → Bool} {shape : Shape}
    (same : ∀ name ∈ shape.map (·.name), known name = others name) (values : Values shape) :
    partly known shape values = partly others shape values := by
  induction shape with
  | nil => rfl
  | cons field rest ih =>
    obtain ⟨value,values⟩ := values
    rw [partly,partly,same field.name (.head _),
      ih fun name member => same name (.tail _ member)]

theorem write_names (shape : Shape) (values : Values shape) :
    (write shape values).map (·.1) = shape.map (·.name) := by
  induction shape with
  | nil => rfl
  | cons field rest ih => exact congrArg (field.name :: ·) (ih values.2)

theorem write_plain {shape : Shape} (faithful : shape.AllFaithful) {values : Values shape}
    (written : (key,node) ∈ write shape values) : node.Plain := by
  induction shape with
  | nil => cases written
  | cons field rest ih =>
    rcases List.mem_cons.mp written with same | later
    · cases same
      exact faithful.1.plain values.1
    · exact ih faithful.2 later

theorem write_holds {shape : Shape} (once : (shape.map (·.name)).Nodup) {values : Values shape}
    (written : (key,node) ∈ write shape values) (reordered : node.Reordered other) :
    Holds shape values key other := by
  induction shape with
  | nil => cases written
  | cons field rest ih =>
    obtain ⟨fresh,once⟩ := List.nodup_cons.mp once
    rcases List.mem_cons.mp written with same | later
    · cases same
      exact .inl ⟨rfl,reordered⟩
    · refine .inr ⟨?_,ih once later⟩
      rintro rfl
      apply fresh
      rw [← write_names rest values.2]
      exact List.mem_map_of_mem later

-- A field that has not been read before is read into its slot.
theorem fill_partly {shape : Shape} (faithful : shape.AllFaithful)
    (once : (shape.map (·.name)).Nodup) {values : Values shape} (place : Place)
    (holds : Holds shape values key node) (fresh : known key = false) :
    fill place key node shape (partly known shape values) =
      some (.ok (partly (fun name => name = key || known name) shape values)) := by
  induction shape with
  | nil => cases holds
  | cons field rest ih =>
    obtain ⟨first,faithful⟩ := faithful
    obtain ⟨apart,once⟩ := List.nodup_cons.mp once
    obtain ⟨value,values⟩ := values
    rcases holds with ⟨rfl,reordered⟩ | ⟨other,later⟩
    · have others : partly known rest values =
          partly (fun name => name = field.name || known name) rest values := by
        refine partly_congr (fun name member => ?_) values
        have different : name ≠ field.name := by rintro rfl; exact apart member
        simp [different]
      simp only [partly,fill,fresh,first.reads place value node reordered,others]
      simp [Except.map]
    · simp only [partly,fill,if_neg other,ih faithful once later]
      simp [Except.map,Ne.symm other]

theorem fillAll_partly {shape : Shape} (faithful : shape.AllFaithful)
    (once : (shape.map (·.name)).Nodup) {values : Values shape} (place : Place)
    {pairs : List (Option String × Node)} (known : String → Bool)
    (holds : ∀ pair ∈ pairs, ∃ key, pair.1 = some key ∧ Holds shape values key pair.2)
    (apart : (pairs.map (·.1)).Nodup)
    (fresh : ∀ key, some key ∈ pairs.map (·.1) → known key = false) :
    fillAll place shape pairs (partly known shape values) =
      .ok (partly (fun name => known name || pairs.any (·.1 = some name)) shape values) := by
  induction pairs generalizing known with
  | nil => simp [fillAll]
  | cons pair rest ih =>
    obtain ⟨key,named,held⟩ := holds pair (.head _)
    obtain ⟨written,node⟩ := pair
    cases named
    obtain ⟨later,apart⟩ := List.nodup_cons.mp apart
    have filled := fill_partly faithful once place held (fresh key (.head _))
    have unread : ∀ other, some other ∈ rest.map (·.1) →
        (decide (other = key) || known other) = false := by
      intro other member
      have different : other ≠ key := by rintro rfl; exact later member
      simp [different,fresh other (.tail _ member)]
    rw [fillAll,filled]
    refine (ih _ (fun pair member => holds pair (.tail _ member)) apart unread).trans ?_
    congr 2
    funext name
    rw [List.any_cons,Bool.or_comm (name = key),Bool.or_assoc]
    simp [eq_comm]

theorem settle_partly {shape : Shape} (known : String → Bool)
    (all : ∀ name ∈ shape.map (·.name), known name = true) (values : Values shape) :
    settle shape (partly known shape values) = .ok values := by
  induction shape with
  | nil => rfl
  | cons field rest ih =>
    obtain ⟨value,values⟩ := values
    have later := ih (fun name member => all name (.tail _ member)) values
    simp only [partly,settle,if_pos (all field.name (.head _)),Option.some_or,later]
    rfl

end Shape

-- A record is read from its fields in any order, if their names are apart.
theorem Codec.record_reads {α : Type} (name : String) {shape : Shape}
    {make : shape.Values → α} {parts : α → shape.Values} (faithful : shape.AllFaithful)
    (once : (shape.map (·.name)).Nodup) {value : α} (whole : make (parts value) = value)
    (place : Place) (reordered : ((record name shape make parts).encode value).Reordered node) :
    (record name shape make parts).decode place node = .ok value := by
  obtain ⟨others,last,rfl,inside,order⟩ := reordered.fields
  have written : others.map (·.1) = (shape.map (·.name)).map some := by
    rw [inside.keys,← shape.write_names (parts value),List.map_map,List.map_map]
    rfl
  have keys : (last.map (·.1)).Perm ((shape.map (·.name)).map some) :=
    written ▸ (order.map (·.1)).symm
  have apart : (last.map (·.1)).Nodup :=
    keys.nodup_iff.mpr
      (List.Pairwise.map some (fun _ _ other same => other (Option.some.inj same)) once)
  have holds : ∀ pair ∈ last, ∃ key, pair.1 = some key ∧
      shape.Holds (parts value) key pair.2 := by
    rintro ⟨key,node⟩ member
    obtain ⟨source,found,reordered⟩ := inside.source (order.mem_iff.mpr member)
    obtain ⟨pair,listed,same⟩ := List.mem_map.mp found
    cases same
    exact ⟨pair.1,rfl,Shape.write_holds once listed reordered⟩
  have all : ∀ name ∈ shape.map (·.name), (false || last.any (·.1 = some name)) = true := by
    intro name member
    obtain ⟨pair,among,same⟩ := List.mem_map.mp (keys.mem_iff.mpr (List.mem_map_of_mem member))
    exact List.any_eq_true.mpr ⟨pair,among,decide_eq_true same⟩
  have filled := Shape.fillAll_partly faithful once place.inside (fun _ => false) holds apart
    fun _ _ => rfl
  have settled := Shape.settle_partly _ all (parts value)
  simp only [record]
  rw [shape.blank_partly (parts value),filled]
  show (shape.settle _).map make = _
  rw [settled]
  exact congrArg Except.ok whole

theorem Codec.record_faithful {α : Type} (name : String) {shape : Shape}
    {make : shape.Values → α} {parts : α → shape.Values} (faithful : shape.AllFaithful)
    (once : (shape.map (·.name)).Nodup) (whole : ∀ value, make (parts value) = value) :
    (record name shape make parts).Faithful where
  plain value := by
    refine .table (fun pair member => ?_) fun pair member => ?_
    · obtain ⟨_,_,rfl⟩ := List.mem_map.mp member
      rfl
    · obtain ⟨_,written,rfl⟩ := List.mem_map.mp member
      exact Shape.write_plain faithful written
  reads place value _ := record_reads name faithful once (whole value) place

namespace Node.FieldsReordered

theorem one (inside : FieldsReordered [(key,node)] others) (order : others.Perm last) :
    ∃ other, node.Reordered other ∧ last = [(key,other)] := by
  cases inside with
  | cons first rest =>
    cases rest
    exact ⟨_,first,List.perm_singleton.mp order.symm⟩

theorem two (inside : FieldsReordered [(key,node),(second,next)] others)
    (order : others.Perm last) :
    ∃ other another, node.Reordered other ∧ next.Reordered another ∧
      (last = [(key,other),(second,another)] ∨ last = [(second,another),(key,other)]) := by
  cases inside with
  | cons first rest =>
    cases rest with
    | cons later rest =>
      cases rest
      refine ⟨_,_,first,later,?_⟩
      match last,order with
      | [left,right],order =>
        rcases List.mem_cons.mp (order.mem_iff.mp (.head _)) with rfl | later
        · have rest := (List.perm_cons _).mp order
          exact .inl (congrArg _ (List.perm_singleton.mp rest.symm))
        · cases List.mem_singleton.mp later
          have rest := (List.perm_cons _).mp (order.trans (.swap _ _ _))
          exact .inr (congrArg (· ++ [_]) (List.perm_singleton.mp rest.symm))
      | [],order => cases order.length_eq
      | [_],order => cases order.length_eq
      | _ :: _ :: _ :: _,order => cases order.length_eq

end Node.FieldsReordered

namespace Codec

theorem peerKind_faithful : peerKind.Faithful :=
  oneOf_faithful fun kind => by cases kind <;> decide

theorem peerOfFields_bare {guid : Codec Guid} {kind : PeerKind} {bare : Peer} (place : Place)
    (decodes : kind.withoutContent = .ok bare) :
    peerOfFields guid place [(some "type",.text kind.name)] true = .ok bare := by
  have read : peerKind.decode place (.text kind.name) = .ok kind :=
    peerKind_faithful.reads place kind _ .same
  simp [peerOfFields,nextPeerField,read,decodes,bind,Except.bind]

theorem peerOfFields_named {guid : Codec Guid} {kind : PeerKind} {named : Peer} {content : Node}
    (place : Place) (readable : content.readable (place.format.depthLimit - place.depth) = true)
    (decodes : kind.decodeContent guid place content = .ok named) :
    peerOfFields guid place [(some "type",.text kind.name),(some "guid",content)] true = .ok named ∧
    peerOfFields guid place [(some "guid",content),(some "type",.text kind.name)] true =
      .ok named := by
  have read : peerKind.decode place (.text kind.name) = .ok kind :=
    peerKind_faithful.reads place kind _ .same
  constructor
  · simp [peerOfFields,nextPeerField,read,decodes,bind,Except.bind,pure,Except.pure]
  · simp [peerOfFields,nextPeerField,read,decodes,readable,bind,Except.bind,pure,Except.pure]

theorem guid_faithful : guid.Faithful :=
  parsed_faithful fun value => by rw [Guid.parse_text]; rfl

theorem peerType_reads (place : Place) (value : Peer)
    (reordered : (peerType.encode value).Reordered node) :
    peerType.decode place node = .ok value := by
  have bare {kind : PeerKind} (decodes : kind.withoutContent = .ok value)
      (reordered : (Node.fields [("type",.text kind.name)]).Reordered node) :
      peerType.decode place node = .ok value := by
    obtain ⟨others,last,rfl,inside,order⟩ := reordered.fields
    obtain ⟨other,same,rfl⟩ := inside.one order
    cases same.text
    exact peerOfFields_bare place.inside decodes
  have named {kind : PeerKind} {content : Guid}
      (decodes : kind.decodeContent guid place.inside (guid.encode content) = .ok value)
      (reordered : (Node.fields [("type",.text kind.name),
        ("guid",guid.encode content)]).Reordered node) :
      peerType.decode place node = .ok value := by
    obtain ⟨others,last,rfl,inside,order⟩ := reordered.fields
    obtain ⟨other,another,first,second,either⟩ := inside.two order
    cases first.text
    cases second.text
    obtain ⟨kindFirst,contentFirst⟩ := peerOfFields_named place.inside rfl decodes
    rcases either with rfl | rfl
    · exact kindFirst
    · exact contentFirst
  cases value with
  | all | anyTrusted => exact bare rfl reordered
  | guildMember content | identity content =>
    refine named ?_ reordered
    show (guid.decode _ _).map _ = _
    rw [guid_faithful.reads _ content _ .same]
    rfl

theorem peerType_faithful : peerType.Faithful where
  plain value := by
    have both {kind : String} {content : Guid} :
        (Node.fields [("type",.text kind),("guid",guid.encode content)]).Plain :=
      .table (by simp) (by simp [Node.Plain.text,guid_faithful.plain content])
    cases value with
    | all | anyTrusted => exact .table (by simp) (by simp [Node.Plain.text])
    | guildMember content | identity content => exact both
  reads place value _ := peerType_reads place value

theorem text_faithful : text.Faithful := textNamed_faithful _

theorem applicationId_faithful : applicationId.Faithful := imap_faithful text_faithful fun _ => rfl

theorem claimState_faithful : claimState.Faithful :=
  oneOf_faithful fun state => by cases state <;> decide

theorem runningState_faithful : runningState.Faithful :=
  oneOf_faithful fun state => by cases state <;> decide

theorem application_faithful : application.Faithful :=
  record_faithful _ ⟨applicationId_faithful,text_faithful,text_faithful,claimState_faithful,
    runningState_faithful,trivial⟩ (by decide) fun _ => rfl

theorem identity_faithful : identity.Faithful :=
  record_faithful _ ⟨text_faithful,guid_faithful,trivial⟩ (by decide) fun _ => rfl

theorem guild_faithful : guild.Faithful :=
  record_faithful _ ⟨text_faithful,text_faithful,guid_faithful,trivial⟩ (by decide) fun _ => rfl

theorem termPeer_faithful : termPeer.Faithful :=
  record_faithful _ ⟨peerType_faithful,trivial⟩ (by decide) fun _ => rfl

theorem rule_faithful : rule.Faithful := imap_faithful text_faithful fun _ => rfl

theorem term_faithful : term.Faithful :=
  record_faithful _ ⟨list_faithful termPeer_faithful,list_faithful rule_faithful,trivial⟩
    (by decide) fun _ => rfl

theorem policy_faithful : policy.Faithful :=
  record_faithful _ ⟨uint32_faithful,list_faithful term_faithful,trivial⟩ (by decide) fun _ => rfl

theorem manifest_faithful : manifest.Faithful :=
  record_faithful _ ⟨list_faithful uint8_faithful,trivial⟩ (by decide) fun _ => rfl

theorem keyStore_faithful : keyStore.Faithful :=
  record_faithful _ ⟨textNamed_faithful _,text_faithful,text_faithful,trivial⟩ (by decide)
    fun _ => rfl

theorem identitySettings_faithful : identitySettings.Faithful :=
  record_faithful _ ⟨text_faithful,trivial⟩ (by decide) fun _ => rfl

theorem approvalSettings_faithful : approvalSettings.Faithful :=
  record_faithful _ ⟨boolean_faithful,list_faithful text_faithful,trivial⟩ (by decide)
    fun _ => rfl

theorem fleetEntry_faithful : fleetEntry.Faithful :=
  record_faithful _ ⟨text_faithful,text_faithful,text_faithful,claimState_faithful,
    runningState_faithful,text_faithful,trivial⟩ (by decide) fun _ => rfl

theorem settings_faithful : settings.Faithful :=
  record_faithful _ ⟨identitySettings_faithful,optional_faithful keyStore_faithful fun _ => nofun,
    approvalSettings_faithful,list_faithful fleetEntry_faithful,trivial⟩ (by decide) fun _ => rfl

end Codec

-- All that has a written form.
inductive Form where
  | guid
  | applicationId
  | claimState
  | runningState
  | application
  | applications
  | identity
  | guild
  | peerType
  | termPeer
  | rule
  | term
  | policy
  | manifest
  | keyStore
  | identitySettings
  | approvalSettings
  | fleetEntry
  | settings

namespace Form

def Value : Form → Type
  | guid => Guid
  | applicationId => ApplicationId
  | claimState => ClaimState
  | runningState => RunningState
  | application => Application
  | applications => List Application
  | identity => Identity
  | guild => Guild
  | peerType | termPeer => Peer
  | rule => Rule
  | term => Term
  | policy => Policy
  | manifest => Manifest
  | keyStore => KeyStore
  | identitySettings => IdentitySettings
  | approvalSettings => ApprovalSettings
  | fleetEntry => FleetEntry
  | settings => Settings

def codec : (form : Form) → Codec form.Value
  | guid => Codec.guid
  | applicationId => Codec.applicationId
  | claimState => Codec.claimState
  | runningState => Codec.runningState
  | application => Codec.application
  | applications => Codec.list Codec.application
  | identity => Codec.identity
  | guild => Codec.guild
  | peerType => Codec.peerType
  | termPeer => Codec.termPeer
  | rule => Codec.rule
  | term => Codec.term
  | policy => Codec.policy
  | manifest => Codec.manifest
  | keyStore => Codec.keyStore
  | identitySettings => Codec.identitySettings
  | approvalSettings => Codec.approvalSettings
  | fleetEntry => Codec.fleetEntry
  | settings => Codec.settings

theorem codec_faithful (form : Form) : form.codec.Faithful := by
  cases form with
  | guid => exact Codec.guid_faithful
  | applicationId => exact Codec.applicationId_faithful
  | claimState => exact Codec.claimState_faithful
  | runningState => exact Codec.runningState_faithful
  | application => exact Codec.application_faithful
  | applications => exact Codec.list_faithful Codec.application_faithful
  | identity => exact Codec.identity_faithful
  | guild => exact Codec.guild_faithful
  | peerType => exact Codec.peerType_faithful
  | termPeer => exact Codec.termPeer_faithful
  | rule => exact Codec.rule_faithful
  | term => exact Codec.term_faithful
  | policy => exact Codec.policy_faithful
  | manifest => exact Codec.manifest_faithful
  | keyStore => exact Codec.keyStore_faithful
  | identitySettings => exact Codec.identitySettings_faithful
  | approvalSettings => exact Codec.approvalSettings_faithful
  | fleetEntry => exact Codec.fleetEntry_faithful
  | settings => exact Codec.settings_faithful

-- A text that reads as what is written of a value, with the fields of its tables in any order.
def Says (form : Form) (value : form.Value) (text : String) : Prop :=
  ∃ node, (form.codec.encode value).Reordered node ∧ Json.read text = (node,true)

theorem decode_said {form : Form} {value : form.Value} (said : form.Says value text) :
    Json.decode form.codec text = .ok value := by
  obtain ⟨node,reordered,read⟩ := said
  simp only [Json.decode,read,form.codec_faithful.reads _ value node reordered]
  rfl

theorem written_said {form : Form} {value : form.Value}
    (reordered : (form.codec.encode value).Reordered node) :
    form.Says value (Json.compact node) ∧ form.Says value (Json.pretty 0 node) := by
  have plain := reordered.plain (form.codec_faithful.plain value)
  exact ⟨⟨node,reordered,Json.read_spelt (Json.compact_spells plain)⟩,
    ⟨node,reordered,Json.read_spelt (Json.pretty_spells plain 0)⟩⟩

-- For everything that has a written form: what has been written is read back as it was, in all
-- places and whatever the order of fields. Both texts of it say it, and so may others; all texts
-- that say it are read back as it was. No two values are written alike, nor in such a way that
-- only the order of fields tells them apart.
theorem decode_encode (form : Form) (value : form.Value) :
    (∀ place node, (form.codec.encode value).Reordered node →
      form.codec.decode place node = .ok value) ∧
    (∀ node, (form.codec.encode value).Reordered node →
      form.Says value (Json.compact node) ∧ form.Says value (Json.pretty 0 node)) ∧
    (∀ text, form.Says value text → Json.decode form.codec text = .ok value) ∧
    (∀ other node, (form.codec.encode value).Reordered node →
      (form.codec.encode other).Reordered node → value = other) ∧
    ∀ other text, form.Says value text → form.Says other text → value = other := by
  have reads := form.codec_faithful.reads
  refine ⟨fun place => reads place value,fun node => written_said,fun text => decode_said,?_,?_⟩
  · intro other node first second
    have place : Place := ⟨Json.format,0⟩
    exact Except.ok.inj ((reads place _ _ first).symm.trans (reads place _ _ second))
  · intro other text first second
    exact Except.ok.inj ((decode_said first).symm.trans (decode_said second))

end Form

end Custody.Document

namespace Custody

open Document

theorem Report.json_read (apps : List Application) :
    Json.decode (Codec.list Codec.application) (Report.json apps) = .ok apps := by
  have said : Form.applications.Says apps (Report.json apps) := (Form.written_said .same).2
  exact Form.decode_said said

end Custody

namespace Custody.Sample

open Document

-- A policy for the members of a guild and for all who are trusted.
def memberPolicy : Policy :=
  ⟨1,[⟨[.guildMember Guid.reserved,.anyTrusted],[⟨"*"⟩]⟩]⟩

-- The same, with all fields in another order than they are written in.
def shuffledPolicy : Node :=
  .fields
    [("terms",.items [.fields
      [("rules",.items [.text "*"]),
       ("peers",.items
        [.fields [("peer_type",.fields
          [("guid",.text Guid.reserved.text),("type",.text "guild_member")])],
         .fields [("peer_type",.fields [("type",.text "any_trusted")])]])]]),
     ("version",.integer 1)]

theorem shuffledPolicy_reordered :
    (Codec.policy.encode memberPolicy).Reordered shuffledPolicy := by
  have member : (Codec.termPeer.encode (.guildMember Guid.reserved)).Reordered
      (.fields [("peer_type",.fields
        [("guid",.text Guid.reserved.text),("type",.text "guild_member")])]) :=
    .table (.cons (.table (Node.fieldsReordered_self _) (.swap _ _ _)) .nil) (.refl _)
  refine .table (.cons .same (.cons (.list (.cons ?_ .nil)) .nil)) (.swap _ _ _)
  exact .table (.cons (.list (.cons member (.cons .same .nil))) (.cons .same .nil)) (.swap _ _ _)

theorem shuffled_policy_read :
    shuffledPolicy ≠ Codec.policy.encode memberPolicy ∧
    Json.decode Codec.policy (Json.compact shuffledPolicy) = .ok memberPolicy := by
  obtain ⟨_,writes,reads,_⟩ := Form.decode_encode .policy memberPolicy
  refine ⟨?_,reads _ (writes _ shuffledPolicy_reordered).1⟩
  simp [shuffledPolicy,Node.fields,Codec.policy,Codec.record,Shape.write]

end Custody.Sample
