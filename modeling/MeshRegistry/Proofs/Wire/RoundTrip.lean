import MeshRegistry.Discovery.NodeIdentity
import MeshRegistry.Proofs.Wire.Segments
import MeshRegistry.Wire.MeshConfig
import MeshRegistry.Wire.Resource
/-!
# Messages that are written are read back

The messages of the discovery stream and those that are packed in its answers are read back from
their octets, as long as the number of these fits 64 bits. Numbers that stand for no location and no
resolution are kept. The entries of a map may be written in any order.

Dynamic values are read back where they are texts, as in the metadata of all nodes that clients
present themselves as.

## Main definitions

- `DiscoveryRequest.Written` and so on: the fields that may be written for a message.
- `Wire.ReadBack`: a message is read back however it is written.

## Main results

- `McpMetadata.reads_written` and so on: what the fields of a message do.
- `Wire.messages_readBack`: the messages are read back.
-/

namespace MeshRegistry

open Wire Wire.Reader

/-! ## Messages without maps -/

namespace Any

theorem reads_fields (a : Any) : reader.Reads 0 {} a.fields a := by
  have htype : reader.Reads 0 {} (textField 1 a.typeUrl) { typeUrl := a.typeUrl } :=
    reads_text (fun typeUrl => { typeUrl }) (by decide) (fun _ _ => rfl) rfl rfl
  have hvalue : reader.Reads 0 { typeUrl := a.typeUrl } (octetsField 2 a.value) a :=
    reads_octets (fun value => { a with value }) (by decide) (fun _ _ => rfl) rfl rfl
  exact htype.append hvalue

end Any

namespace Locality

theorem reads_fields (l : Locality) : reader.Reads 0 {} l.fields l := by
  have hregion : reader.Reads 0 {} (textField 1 l.region) { region := l.region } :=
    reads_text (fun region => { region }) (by decide) (fun _ _ => rfl) rfl rfl
  have hzone : reader.Reads 0 { region := l.region } (textField 2 l.zone)
      { region := l.region, zone := l.zone } :=
    reads_text (fun zone => { region := l.region, zone }) (by decide) (fun _ _ => rfl) rfl rfl
  have hsubZone : reader.Reads 0 { region := l.region, zone := l.zone } (textField 3 l.subZone) l :=
    reads_text (fun subZone => { l with subZone }) (by decide) (fun _ _ => rfl) rfl rfl
  exact (hregion.append hzone).append hsubZone

end Locality

namespace Status

theorem reads_fields (s : Status) : reader.Reads 1 {} s.fields s := by
  have hcode : reader.Reads 1 {} (natField 1 (twosComplement s.code.toInt)) { code := s.code } :=
    reads_int32 (fun code => { code }) (by decide) rfl (fun _ _ => rfl) rfl rfl
  have hmessage : reader.Reads 1 { code := s.code } (textField 2 s.message)
      { code := s.code, message := s.message } :=
    reads_text (fun message => { code := s.code, message }) (by decide) (fun _ _ => rfl) rfl rfl
  have hdetails : reader.Reads 1 { code := s.code, message := s.message }
      (s.details.map fun a => nestedField 3 a.fields) s :=
    reads_repeated (fun details => { s with details }) (fun a _ h => h ▸ a.reads_fields)
      Nat.zero_lt_one (by decide) (fun _ _ _ => rfl) rfl rfl
      (writesEach_map 3 (fun _ => rfl) s.details)
  exact (hcode.append hmessage).append hdetails

end Status

namespace ControlPlane

theorem reads_fields (c : ControlPlane) : reader.Reads 0 {} c.fields c :=
  reads_text (fun identifier => { identifier }) (by decide) (fun _ _ => rfl) rfl rfl

end ControlPlane

namespace DiscoveryResponse

theorem reads_fields (r : DiscoveryResponse) : reader.Reads 1 {} r.fields r := by
  have hversion : reader.Reads 1 {} (textField 1 r.versionInfo) { versionInfo := r.versionInfo } :=
    reads_text (fun versionInfo => { versionInfo }) (by decide) (fun _ _ => rfl) rfl rfl
  have hresources : reader.Reads 1 { versionInfo := r.versionInfo }
      (r.resources.map fun a => nestedField 2 a.fields)
      { versionInfo := r.versionInfo, resources := r.resources } :=
    reads_repeated (fun resources => { versionInfo := r.versionInfo, resources })
      (fun a _ h => h ▸ a.reads_fields) Nat.zero_lt_one (by decide) (fun _ _ _ => rfl) rfl rfl
      (writesEach_map 2 (fun _ => rfl) r.resources)
  have hcanary : reader.Reads 1 { versionInfo := r.versionInfo, resources := r.resources }
      (flagField 3 r.canary)
      { versionInfo := r.versionInfo, resources := r.resources, canary := r.canary } :=
    reads_flag (fun canary => { versionInfo := r.versionInfo, resources := r.resources, canary })
      (by decide) rfl (fun _ _ => rfl) rfl rfl
  -- From the middle on it is shorter to say which members are still unset.
  have htype : reader.Reads 1 { r with typeUrl := "", nonce := "", controlPlane := none }
      (textField 4 r.typeUrl) { r with nonce := "", controlPlane := none } :=
    reads_text (fun typeUrl => { r with typeUrl, nonce := "", controlPlane := none }) (by decide)
      (fun _ _ => rfl) rfl rfl
  have hnonce : reader.Reads 1 { r with nonce := "", controlPlane := none } (textField 5 r.nonce)
      { r with controlPlane := none } :=
    reads_text (fun nonce => { r with nonce, controlPlane := none }) (by decide) (fun _ _ => rfl)
      rfl rfl
  have hserver : reader.Reads 1 { r with controlPlane := none }
      (optionField 6 ControlPlane.fields r.controlPlane) r :=
    reads_optional (fun controlPlane => { r with controlPlane })
      (fun c _ _ h => h ▸ c.reads_fields) Nat.zero_lt_one (by decide) (fun _ _ => rfl) rfl rfl
      (writesOption_optionField 6 (fun _ => rfl) r.controlPlane)
  exact ((((hversion.append hresources).append hcanary).append htype).append hnonce).append hserver

end DiscoveryResponse

namespace MeshConfig

theorem reads_fields (c : MeshConfig) : reader.Reads 0 {} c.fields c := by
  have hlisten : reader.Reads 0 {} (natField 4 (twosComplement c.proxyListenPort.toInt))
      { proxyListenPort := c.proxyListenPort } :=
    reads_int32 (fun proxyListenPort => { proxyListenPort }) (by decide) rfl (fun _ _ => rfl) rfl rfl
  have hhttp : reader.Reads 0 { proxyListenPort := c.proxyListenPort }
      (natField 5 (twosComplement c.proxyHttpPort.toInt))
      { proxyListenPort := c.proxyListenPort, proxyHttpPort := c.proxyHttpPort } :=
    reads_int32 (fun proxyHttpPort => { proxyListenPort := c.proxyListenPort, proxyHttpPort })
      (by decide) rfl (fun _ _ => rfl) rfl rfl
  have hclass : reader.Reads 0
      { proxyListenPort := c.proxyListenPort, proxyHttpPort := c.proxyHttpPort }
      (textField 7 c.ingressClass)
      { c with ingressService := "", enableTracing := false, accessLogFile := "", trustDomain := "",
               rootSpace := "" } :=
    reads_text
      (fun ingressClass =>
        { c with ingressClass, ingressService := "", enableTracing := false, accessLogFile := "",
                 trustDomain := "", rootSpace := "" })
      (by decide) (fun _ _ => rfl) rfl rfl
  have hservice : reader.Reads 0
      { c with ingressService := "", enableTracing := false, accessLogFile := "", trustDomain := "",
               rootSpace := "" }
      (textField 8 c.ingressService)
      { c with enableTracing := false, accessLogFile := "", trustDomain := "", rootSpace := "" } :=
    reads_text
      (fun ingressService =>
        { c with ingressService, enableTracing := false, accessLogFile := "", trustDomain := "",
                 rootSpace := "" })
      (by decide) (fun _ _ => rfl) rfl rfl
  have htracing : reader.Reads 0
      { c with enableTracing := false, accessLogFile := "", trustDomain := "", rootSpace := "" }
      (flagField 12 c.enableTracing)
      { c with accessLogFile := "", trustDomain := "", rootSpace := "" } :=
    reads_flag
      (fun enableTracing =>
        { c with enableTracing, accessLogFile := "", trustDomain := "", rootSpace := "" })
      (by decide) rfl (fun _ _ => rfl) rfl rfl
  have hlog : reader.Reads 0 { c with accessLogFile := "", trustDomain := "", rootSpace := "" }
      (textField 18 c.accessLogFile) { c with trustDomain := "", rootSpace := "" } :=
    reads_text (fun accessLogFile => { c with accessLogFile, trustDomain := "", rootSpace := "" })
      (by decide) (fun _ _ => rfl) rfl rfl
  have hdomain : reader.Reads 0 { c with trustDomain := "", rootSpace := "" }
      (textField 26 c.trustDomain) { c with rootSpace := "" } :=
    reads_text (fun trustDomain => { c with trustDomain, rootSpace := "" }) (by decide)
      (fun _ _ => rfl) rfl rfl
  have hspace : reader.Reads 0 { c with rootSpace := "" } (textField 34 c.rootSpace) c :=
    reads_text (fun rootSpace => { c with rootSpace }) (by decide) (fun _ _ => rfl) rfl rfl
  exact ((((((hlisten.append hhttp).append hclass).append hservice).append htracing).append
    hlog).append hdomain).append hspace

end MeshConfig

namespace Timestamp

theorem reads_fields (t : Timestamp) : reader.Reads 0 {} t.fields t := by
  have hseconds : reader.Reads 0 {} (natField 1 (twosComplement t.seconds.toInt))
      { seconds := t.seconds } :=
    reads_int64 (fun seconds => { seconds }) (by decide) rfl (fun _ _ => rfl) rfl rfl
  have hnanos : reader.Reads 0 { seconds := t.seconds } (natField 2 (twosComplement t.nanos.toInt))
      t :=
    reads_int32 (fun nanos => { t with nanos }) (by decide) rfl (fun _ _ => rfl) rfl rfl
  exact hseconds.append hnanos

end Timestamp

namespace StreamedPort

theorem reads_fields (p : StreamedPort) : reader.Reads 0 {} p.fields p := by
  have hnumber : reader.Reads 0 {} (natField 1 p.number.toNat) { number := p.number } :=
    reads_word (fun number => { number }) (by decide) rfl (fun _ _ => rfl) rfl rfl
  have hprotocol : reader.Reads 0 { number := p.number } (textField 2 p.protocol)
      { number := p.number, protocol := p.protocol } :=
    reads_text (fun protocol => { number := p.number, protocol }) (by decide) (fun _ _ => rfl)
      rfl rfl
  have hname : reader.Reads 0 { number := p.number, protocol := p.protocol } (textField 3 p.name)
      { p with targetPort := 0 } :=
    reads_text (fun name => { p with name, targetPort := 0 }) (by decide) (fun _ _ => rfl) rfl rfl
  have htarget : reader.Reads 0 { p with targetPort := 0 } (natField 4 p.targetPort.toNat) p :=
    reads_word (fun targetPort => { p with targetPort }) (by decide) rfl (fun _ _ => rfl) rfl rfl
  exact ((hnumber.append hprotocol).append hname).append htarget

end StreamedPort

/-! ## Messages with maps -/

namespace McpMetadata

/-- The fields that may be written for metadata: the entries of a map come in any order. -/
def Written (m : McpMetadata) (fs : List Field) : Prop :=
  ∃ labels annotations, WritesMap (textEntryField 4) m.labels labels ∧
    WritesMap (textEntryField 5) m.annotations annotations ∧
    fs = textField 1 m.name ++ optionField 2 Timestamp.fields m.createTime ++ textField 3 m.version
      ++ labels ++ annotations

theorem written_fields (m : McpMetadata) : m.Written m.fields :=
  ⟨_, _, ⟨_, .rfl, rfl⟩, ⟨_, .rfl, rfl⟩, rfl⟩

theorem reads_written {m : McpMetadata} {fs : List Field} (hfs : m.Written fs) :
    reader.Reads 1 {} fs m := by
  obtain ⟨labels, annotations, hlabels, hannotations, rfl⟩ := hfs
  have hname : reader.Reads 1 {} (textField 1 m.name) { name := m.name } :=
    reads_text (fun name => { name }) (by decide) (fun _ _ => rfl) rfl rfl
  have htime : reader.Reads 1 { name := m.name } (optionField 2 Timestamp.fields m.createTime)
      { name := m.name, createTime := m.createTime } :=
    reads_optional (fun createTime => { name := m.name, createTime })
      (fun t _ _ h => h ▸ t.reads_fields) Nat.zero_lt_one (by decide) (fun _ _ => rfl) rfl rfl
      (writesOption_optionField 2 (fun _ => rfl) m.createTime)
  have hversion : reader.Reads 1 { name := m.name, createTime := m.createTime }
      (textField 3 m.version) { m with labels := .empty, annotations := .empty } :=
    reads_text (fun version => { m with version, labels := .empty, annotations := .empty })
      (by decide) (fun _ _ => rfl) rfl rfl
  have hlabels : reader.Reads 1 { m with labels := .empty, annotations := .empty }
      labels { m with annotations := .empty } :=
    reads_textMap (fun labels => { m with labels, annotations := .empty }) Nat.zero_lt_one
      (by decide) (fun _ _ _ => rfl) rfl rfl hlabels
  have hannotations : reader.Reads 1 { m with annotations := .empty } annotations m :=
    reads_textMap (fun annotations => { m with annotations }) Nat.zero_lt_one
      (by decide) (fun _ _ _ => rfl) rfl rfl hannotations
  exact (((hname.append htime).append hversion).append hlabels).append hannotations

end McpMetadata

namespace McpResource

def Written (r : McpResource) (fs : List Field) : Prop :=
  ∃ metadata, WritesOption 1 McpMetadata.Written r.metadata metadata ∧
    fs = metadata ++ optionField 2 Any.fields r.body

theorem written_fields (r : McpResource) : r.Written r.fields :=
  ⟨_, writesOption_optionField 1 McpMetadata.written_fields r.metadata, rfl⟩

theorem reads_written {r : McpResource} {fs : List Field} (hfs : r.Written fs) :
    reader.Reads 2 {} fs r := by
  obtain ⟨metadata, hmetadata, rfl⟩ := hfs
  have hmetadata : reader.Reads 2 {} metadata { metadata := r.metadata } :=
    reads_optional (fun metadata => { metadata }) (fun m _ _ h => m.reads_written h)
      (by decide) (by decide) (fun _ _ => rfl) rfl rfl hmetadata
  have hbody : reader.Reads 2 { metadata := r.metadata } (optionField 2 Any.fields r.body) r :=
    reads_optional (fun body => { r with body }) (fun a _ _ h => h ▸ a.reads_fields)
      (by decide) (by decide) (fun _ _ => rfl) rfl rfl
      (writesOption_optionField 2 (fun _ => rfl) r.body)
  exact hmetadata.append hbody

end McpResource

namespace StreamedEndpoint

/-- The fields that may be written for an endpoint: the entries of a map come in any order. -/
def Written (e : StreamedEndpoint) (fs : List Field) : Prop :=
  ∃ ports labels, WritesMap (wordEntryField 2) e.ports ports ∧
    WritesMap (textEntryField 3) e.labels labels ∧
    fs = textField 1 e.address ++ ports ++ labels ++ textField 4 e.network ++ textField 5 e.locality
      ++ natField 6 e.weight.toNat ++ textField 7 e.serviceAccount

theorem written_fields (e : StreamedEndpoint) : e.Written e.fields :=
  ⟨_, _, ⟨_, .rfl, rfl⟩, ⟨_, .rfl, rfl⟩, rfl⟩

theorem reads_written {e : StreamedEndpoint} {fs : List Field} (hfs : e.Written fs) :
    reader.Reads 1 {} fs e := by
  obtain ⟨ports, labels, hports, hlabels, rfl⟩ := hfs
  have haddress : reader.Reads 1 {} (textField 1 e.address) { address := e.address } :=
    reads_text (fun address => { address }) (by decide) (fun _ _ => rfl) rfl rfl
  have hports : reader.Reads 1 { address := e.address } ports
      { address := e.address, ports := e.ports } :=
    reads_wordMap (fun ports => { address := e.address, ports }) Nat.zero_lt_one (by decide)
      (fun _ _ _ => rfl) rfl rfl hports
  have hlabels : reader.Reads 1 { address := e.address, ports := e.ports } labels
      { e with network := "", locality := "", weight := 0, serviceAccount := "" } :=
    reads_textMap
      (fun labels =>
        { e with labels, network := "", locality := "", weight := 0, serviceAccount := "" })
      Nat.zero_lt_one (by decide) (fun _ _ _ => rfl) rfl rfl hlabels
  have hnetwork : reader.Reads 1
      { e with network := "", locality := "", weight := 0, serviceAccount := "" }
      (textField 4 e.network) { e with locality := "", weight := 0, serviceAccount := "" } :=
    reads_text (fun network => { e with network, locality := "", weight := 0, serviceAccount := "" })
      (by decide) (fun _ _ => rfl) rfl rfl
  have hlocality : reader.Reads 1 { e with locality := "", weight := 0, serviceAccount := "" }
      (textField 5 e.locality) { e with weight := 0, serviceAccount := "" } :=
    reads_text (fun locality => { e with locality, weight := 0, serviceAccount := "" }) (by decide)
      (fun _ _ => rfl) rfl rfl
  have hweight : reader.Reads 1 { e with weight := 0, serviceAccount := "" }
      (natField 6 e.weight.toNat) { e with serviceAccount := "" } :=
    reads_word (fun weight => { e with weight, serviceAccount := "" }) (by decide) rfl
      (fun _ _ => rfl) rfl rfl
  have haccount : reader.Reads 1 { e with serviceAccount := "" } (textField 7 e.serviceAccount) e :=
    reads_text (fun serviceAccount => { e with serviceAccount }) (by decide) (fun _ _ => rfl) rfl rfl
  exact (((((haddress.append hports).append hlabels).append hnetwork).append hlocality).append
    hweight).append haccount

end StreamedEndpoint

namespace StreamedEntry

def Written (e : StreamedEntry) (fs : List Field) : Prop :=
  -- Only the endpoints have maps.
  ∃ endpoints, WritesEach 6 StreamedEndpoint.Written e.endpoints endpoints ∧
    fs = textFields 1 e.hosts ++ textFields 2 e.addresses
      ++ (e.ports.map fun p => nestedField 3 p.fields)
      ++ natField 4 (twosComplement e.location.toInt)
      ++ natField 5 (twosComplement e.resolution.toInt)
      ++ endpoints ++ textFields 7 e.exportTo ++ textFields 8 e.subjectAltNames

theorem written_fields (e : StreamedEntry) : e.Written e.fields :=
  ⟨_, writesEach_map 6 StreamedEndpoint.written_fields e.endpoints, rfl⟩

theorem reads_written {e : StreamedEntry} {fs : List Field} (hfs : e.Written fs) :
    reader.Reads 2 {} fs e := by
  obtain ⟨endpoints, hendpoints, rfl⟩ := hfs
  have hhosts : reader.Reads 2 {} (textFields 1 e.hosts) { hosts := e.hosts } :=
    reads_texts (fun hosts => { hosts }) (by decide) (fun _ _ _ => rfl) rfl rfl
  have haddresses : reader.Reads 2 { hosts := e.hosts } (textFields 2 e.addresses)
      { hosts := e.hosts, addresses := e.addresses } :=
    reads_texts (fun addresses => { hosts := e.hosts, addresses }) (by decide) (fun _ _ _ => rfl)
      rfl rfl
  have hports : reader.Reads 2 { hosts := e.hosts, addresses := e.addresses }
      (e.ports.map fun p => nestedField 3 p.fields)
      { e with location := 0, resolution := 0, endpoints := [], exportTo := [],
               subjectAltNames := [] } :=
    reads_repeated
      (fun ports =>
        { e with ports, location := 0, resolution := 0, endpoints := [], exportTo := [],
                 subjectAltNames := [] })
      (fun p _ h => h ▸ p.reads_fields) (by decide) (by decide) (fun _ _ _ => rfl) rfl rfl
      (writesEach_map 3 (fun _ => rfl) e.ports)
  have hlocation : reader.Reads 2
      { e with location := 0, resolution := 0, endpoints := [], exportTo := [],
               subjectAltNames := [] }
      (natField 4 (twosComplement e.location.toInt))
      { e with resolution := 0, endpoints := [], exportTo := [], subjectAltNames := [] } :=
    reads_int32
      (fun location =>
        { e with location, resolution := 0, endpoints := [], exportTo := [],
                 subjectAltNames := [] })
      (by decide) rfl (fun _ _ => rfl) rfl rfl
  have hresolution : reader.Reads 2
      { e with resolution := 0, endpoints := [], exportTo := [], subjectAltNames := [] }
      (natField 5 (twosComplement e.resolution.toInt))
      { e with endpoints := [], exportTo := [], subjectAltNames := [] } :=
    reads_int32
      (fun resolution => { e with resolution, endpoints := [], exportTo := [], subjectAltNames := [] })
      (by decide) rfl (fun _ _ => rfl) rfl rfl
  have hendpoints : reader.Reads 2 { e with endpoints := [], exportTo := [], subjectAltNames := [] }
      endpoints { e with exportTo := [], subjectAltNames := [] } :=
    reads_repeated (fun endpoints => { e with endpoints, exportTo := [], subjectAltNames := [] })
      (fun _ _ h => StreamedEndpoint.reads_written h) (by decide) (by decide) (fun _ _ _ => rfl)
      rfl rfl hendpoints
  have hexport : reader.Reads 2 { e with exportTo := [], subjectAltNames := [] }
      (textFields 7 e.exportTo) { e with subjectAltNames := [] } :=
    reads_texts (fun exportTo => { e with exportTo, subjectAltNames := [] }) (by decide)
      (fun _ _ _ => rfl) rfl rfl
  have hnames : reader.Reads 2 { e with subjectAltNames := [] } (textFields 8 e.subjectAltNames) e :=
    reads_texts (fun subjectAltNames => { e with subjectAltNames }) (by decide) (fun _ _ _ => rfl)
      rfl rfl
  exact ((((((hhosts.append haddresses).append hports).append hlocation).append hresolution).append
    hendpoints).append hexport).append hnames

end StreamedEntry

/-! ## Nodes -/

namespace Wire.Value

def entryField (e : String × Value) : Field :=
  nestedField 1 (textField 1 e.1 ++ match e.2 with | unset => [] | v => [nestedField 2 (fields v)])

theorem tableFields_eq_map (entries : List (String × Value)) :
    tableFields entries = entries.map entryField := by
  induction entries with
  | nil => simp [tableFields]
  | cons e rest ih =>
    obtain ⟨k, v⟩ := e
    cases v <;> simp [tableFields, ih, entryField]

/-- A table of texts is read back. -/
theorem reads_table {t : SortedMap String Value} (htexts : ∀ e ∈ t.entries, ∃ s, e.2 = text s)
    {fs : List Field} (hfs : WritesMap entryField t fs) : tableReader.Reads 2 .empty fs t := by
  refine reads_map (fun t => t) (fun done e he => ?_) rfl rfl hfs
  obtain ⟨s, hs⟩ := htexts e he
  -- The text in its value, the value in its entry, and the entry in the table.
  have hvalue : Reads ⟨unset, [], take⟩ 0 unset [.bytes 3 (Text.octets s)] (text s) := by
    refine reads_bytes (by decide) fun levels => ?_
    cases levels <;> simp [take, Field.tag, Field.text?, Field.octets?]
  have hentry : (Field.entryReader unset fun n v f => f.nested? ⟨unset, [], take⟩ n v).Reads 1
      (e.1, unset) [nestedField 2 [.bytes 3 (Text.octets s)]] (e.1, text s) :=
    reads_nested (fun v => (e.1, v)) hvalue Nat.zero_lt_one (by decide) (fun _ _ => rfl) rfl
  have hfields : entryField e =
      nestedField 1 (textField 1 e.1 ++ [nestedField 2 [.bytes 3 (Text.octets s)]]) := by
    simp [entryField, hs, fields]
  rw [hfields, hs]
  exact reads_nested (fun e => done.insert e.1 e.2) (reads_entry hentry) (by decide) (by decide)
    (fun _ _ => rfl) rfl

end Wire.Value

namespace Node

/-- The metadata of a node has texts only. -/
def SaysTexts (n : Node) : Prop :=
  ∀ t, n.metadata = some t → ∀ e ∈ t.entries, ∃ s, e.2 = .text s

def Written (n : Node) (fs : List Field) : Prop :=
  ∃ metadata, WritesOption 3 (WritesMap Value.entryField) n.metadata metadata ∧
    fs = textField 1 n.id ++ textField 2 n.cluster ++ metadata
      ++ optionField 4 Locality.fields n.locality ++ textField 6 n.userAgentName

theorem written_fields (n : Node) : n.Written n.fields := by
  refine ⟨_, writesOption_optionField 3 (fun t => ⟨_, .rfl, ?_⟩) n.metadata, rfl⟩
  exact Value.tableFields_eq_map t.entries

theorem reads_written {n : Node} (htexts : n.SaysTexts) {fs : List Field} (hfs : n.Written fs) :
    reader.Reads 3 {} fs n := by
  obtain ⟨metadata, hmetadata, rfl⟩ := hfs
  have hid : reader.Reads 3 {} (textField 1 n.id) { id := n.id } :=
    reads_text (fun id => { id }) (by decide) (fun _ _ => rfl) rfl rfl
  have hcluster : reader.Reads 3 { id := n.id } (textField 2 n.cluster)
      { id := n.id, cluster := n.cluster } :=
    reads_text (fun cluster => { id := n.id, cluster }) (by decide) (fun _ _ => rfl) rfl rfl
  have hmetadata : reader.Reads 3 { id := n.id, cluster := n.cluster } metadata
      { n with locality := none, userAgentName := "" } :=
    reads_optional (fun metadata => { n with metadata, locality := none, userAgentName := "" })
      (fun t _ ht h => Value.reads_table (htexts t ht) h) (by decide) (by decide) (fun _ _ => rfl)
      rfl rfl hmetadata
  have hlocality : reader.Reads 3 { n with locality := none, userAgentName := "" }
      (optionField 4 Locality.fields n.locality) { n with userAgentName := "" } :=
    reads_optional (fun locality => { n with locality, userAgentName := "" })
      (fun l _ _ h => h ▸ l.reads_fields) (by decide) (by decide) (fun _ _ => rfl) rfl rfl
      (writesOption_optionField 4 (fun _ => rfl) n.locality)
  have hagent : reader.Reads 3 { n with userAgentName := "" } (textField 6 n.userAgentName) n :=
    reads_text (fun userAgentName => { n with userAgentName }) (by decide) (fun _ _ => rfl) rfl rfl
  exact (((hid.append hcluster).append hmetadata).append hlocality).append hagent

end Node

/-- All nodes that clients present themselves as say texts only. -/
theorem NodeIdentity.saysTexts_node (i : NodeIdentity) : i.node.SaysTexts := by
  rintro t ⟨⟩ e he
  obtain ⟨p, -, rfl⟩ := List.mem_map.mp he
  exact ⟨p.2, rfl⟩

namespace DiscoveryRequest

def Written (r : DiscoveryRequest) (fs : List Field) : Prop :=
  ∃ node, WritesOption 2 Node.Written r.node node ∧
    fs = textField 1 r.versionInfo ++ node ++ textFields 3 r.resourceNames ++ textField 4 r.typeUrl
      ++ textField 5 r.responseNonce ++ optionField 6 Status.fields r.errorDetail

theorem written_fields (r : DiscoveryRequest) : r.Written r.fields :=
  ⟨_, writesOption_optionField 2 Node.written_fields r.node, rfl⟩

theorem reads_written {r : DiscoveryRequest} (htexts : ∀ n, r.node = some n → n.SaysTexts)
    {fs : List Field} (hfs : r.Written fs) : reader.Reads 4 {} fs r := by
  obtain ⟨node, hnode, rfl⟩ := hfs
  have hversion : reader.Reads 4 {} (textField 1 r.versionInfo) { versionInfo := r.versionInfo } :=
    reads_text (fun versionInfo => { versionInfo }) (by decide) (fun _ _ => rfl) rfl rfl
  have hnode : reader.Reads 4 { versionInfo := r.versionInfo } node
      { versionInfo := r.versionInfo, node := r.node } :=
    reads_optional (fun node => { versionInfo := r.versionInfo, node })
      (fun n _ hn h => Node.reads_written (htexts n hn) h) (by decide) (by decide)
      (fun _ _ => rfl) rfl rfl hnode
  have hnames : reader.Reads 4 { versionInfo := r.versionInfo, node := r.node }
      (textFields 3 r.resourceNames)
      { r with typeUrl := "", responseNonce := "", errorDetail := none } :=
    reads_texts
      (fun resourceNames =>
        { r with resourceNames, typeUrl := "", responseNonce := "", errorDetail := none })
      (by decide) (fun _ _ _ => rfl) rfl rfl
  have htype : reader.Reads 4 { r with typeUrl := "", responseNonce := "", errorDetail := none }
      (textField 4 r.typeUrl) { r with responseNonce := "", errorDetail := none } :=
    reads_text (fun typeUrl => { r with typeUrl, responseNonce := "", errorDetail := none })
      (by decide) (fun _ _ => rfl) rfl rfl
  have hnonce : reader.Reads 4 { r with responseNonce := "", errorDetail := none }
      (textField 5 r.responseNonce) { r with errorDetail := none } :=
    reads_text (fun responseNonce => { r with responseNonce, errorDetail := none }) (by decide)
      (fun _ _ => rfl) rfl rfl
  have hdetail : reader.Reads 4 { r with errorDetail := none }
      (optionField 6 Status.fields r.errorDetail) r :=
    reads_optional (fun errorDetail => { r with errorDetail }) (fun s _ _ h => h ▸ s.reads_fields)
      (by decide) (by decide) (fun _ _ => rfl) rfl rfl
      (writesOption_optionField 6 (fun _ => rfl) r.errorDetail)
  exact ((((hversion.append hnode).append hnames).append htype).append hnonce).append hdetail

end DiscoveryRequest

/-! ## The messages of the stream -/

namespace Wire

/-- Whatever fields are written for a message, it is read back from their octets, if the number of
these fits 64 bits. -/
def ReadBack {α : Type} (read? : List UInt8 → Option α) (written : List Field → Prop) (x : α) :
    Prop :=
  ∀ fs, written fs → (encode fs).length < 2 ^ 64 → read? (encode fs) = some x

theorem Reader.readBack {α : Type} {r : Reader α} {written : List Field → Prop} {x : α} {depth : Nat}
    (hreads : ∀ fs, written fs → r.Reads depth r.empty fs x) (hdepth : depth ≤ levelLimit) :
    ReadBack r.message? written x :=
  fun fs hfs hsize => (hreads fs hfs).message? hdepth hsize

/-- Requests whose nodes say texts only, as those of all clients do, and answers, wrapped resources,
streamed entries and configurations of the mesh are read back, in whatever order the entries of
their maps are written. -/
theorem messages_readBack :
    (∀ i : NodeIdentity, i.node.SaysTexts) ∧
      (∀ r : DiscoveryRequest, (∀ n, r.node = some n → n.SaysTexts) →
        r.Written r.fields ∧ ReadBack DiscoveryRequest.decode? r.Written r) ∧
      (∀ r : DiscoveryResponse, ReadBack DiscoveryResponse.decode? (· = r.fields) r) ∧
      (∀ r : McpResource, r.Written r.fields ∧ ReadBack McpResource.decode? r.Written r) ∧
      (∀ e : StreamedEntry, e.Written e.fields ∧ ReadBack StreamedEntry.decode? e.Written e) ∧
      ∀ c : MeshConfig, ReadBack MeshConfig.decode? (· = c.fields) c := by
  refine ⟨NodeIdentity.saysTexts_node, ?_, ?_, ?_, ?_, ?_⟩
  · intro r htexts
    exact ⟨r.written_fields, readBack (fun _ h => r.reads_written htexts h) (by decide)⟩
  · intro r
    exact readBack (fun _ h => h ▸ r.reads_fields) (by decide)
  · intro r
    exact ⟨r.written_fields, readBack (fun _ h => r.reads_written h) (by decide)⟩
  · intro e
    exact ⟨e.written_fields, readBack (fun _ h => e.reads_written h) (by decide)⟩
  · intro c
    exact readBack (fun _ h => h ▸ c.reads_fields) (by decide)

/-- A resource is read back with its labels in descending order, one of them without a key and one
without a value, and with a time before the epoch. So are an entry whose location is no location and
a request with the default metadata. -/
theorem descending_labels_readBack :
    let time : Timestamp := { seconds := -1, nanos := 7 }
    let m : McpMetadata :=
      { createTime := some time, labels := .ofList [("", "orders"), ("app", "")] }
    let descending := [nestedField 2 time.fields, nestedField 4 [.bytes 1 (Text.octets "app")],
      nestedField 4 [.bytes 2 (Text.octets "orders")]]
    let e : StreamedEntry := { hosts := ["orders", ""], location := -1 }
    let request : DiscoveryRequest := { node := some (NodeIdentity.ofId "orders").node }
    McpResource.decode? (encode [nestedField 1 descending]) = some { metadata := some m } ∧
      StreamedEntry.decode? e.encode = some e ∧
      DiscoveryRequest.decode? request.encode = some request := by
  intro time m descending e request
  obtain ⟨hidentities, hrequests, -, hresources, hentries, -⟩ := messages_readBack
  have hlabels : List.Perm [("app", ""), ("", "orders")] m.labels.entries := .swap ..
  have hmetadata : m.Written descending :=
    ⟨_, _, ⟨_, hlabels, rfl⟩, ⟨[], .nil, rfl⟩, rfl⟩
  have hwritten : McpResource.Written { metadata := some m } [nestedField 1 descending] :=
    ⟨_, ⟨_, hmetadata, rfl⟩, rfl⟩
  have htexts : ∀ n, request.node = some n → n.SaysTexts := by
    rintro _ ⟨⟩
    exact hidentities _
  exact ⟨(hresources _).2 _ hwritten (by decide +kernel),
    (hentries e).2 _ e.written_fields (by decide +kernel),
    (hrequests request htexts).2 _ request.written_fields (by decide +kernel)⟩

end Wire

end MeshRegistry
