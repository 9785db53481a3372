import LMonitor.Collector.NetworkCollector

namespace LMonitor.NetworkCollector
open Library

/-- The kernel names an interface without blanks, slashes and colons. -/
structure DeviceName where
  text : Bytes
  word : Word text
  noColon : 58 ∉ text

/-- A route has a line of the routing table, which goes on behind its flags. -/
structure Route where
  interface : DeviceName
  destination : UInt32
  gateway : UInt32
  flags : UInt16
  rest : Bytes
  restLine : 10 ∉ rest

namespace Route

/-- Tabs separate the columns of the table. -/
def line (route : Route) : Bytes :=
  route.interface.text ++ 9 :: (hexText 8 route.destination.toNat ++
    9 :: (hexText 8 route.gateway.toNat ++ 9 :: (hexText 4 route.flags.toNat ++
      9 :: route.rest)))

end Route

/-- The table has a header and then a line for each route. -/
structure RouteTable where
  header : Bytes
  headerLine : 10 ∉ header
  routes : List Route

def RouteTable.text (table : RouteTable) : Bytes :=
  (table.header :: table.routes.map Route.line).flatMap fun line => line ++ [10]

/-- The counters of an interface stand in columns, with at least one blank before each of them. -/
structure Device where
  indent : Nat
  interface : DeviceName
  blanks : Fin 16 → Nat
  counters : Fin 16 → UInt64

namespace Device

def column (device : Device) (index : Fin 16) : Bytes :=
  List.replicate (device.blanks index + 1) 32 ++ decimal (device.counters index).toNat

def columns (device : Device) : Bytes := (List.finRange 16).flatMap device.column

def line (device : Device) : Bytes :=
  List.replicate device.indent 32 ++ device.interface.text ++ 58 :: device.columns

/-- The first and the ninth counter count bytes. -/
def stats (device : Device) : NetworkStats :=
  ⟨device.interface.text, device.counters 0, device.counters 8⟩

end Device

/-- The table has two lines of header and then a line for each interface. -/
structure DeviceTable where
  first : Bytes
  second : Bytes
  firstLine : 10 ∉ first
  secondLine : 10 ∉ second
  devices : List Device

def DeviceTable.text (table : DeviceTable) : Bytes :=
  (table.first :: table.second :: table.devices.map Device.line).flatMap fun line => line ++ [10]

theorem padding_tab : Padding [9] := by decide

/-- The word of a column ends at the next tab. -/
theorem extractWord_column {word : Bytes} (known : Word word) (rest : Bytes) :
    extractWord (9 :: (word ++ 9 :: rest)) = some (word, 9 :: rest) :=
  extractWord_padded padding_tab known (ends_space 9 rfl rest)

/-- A line of the table is read up to its flags. -/
theorem readRoute_line (route : Route) :
    readRoute route.line = some ((route.interface.text, hexText 8 route.destination.toNat),
      9 :: route.rest) := by
  have name := extractWord_padded (show Padding [] by decide) route.interface.word
    (ends_space 9 rfl (hexText 8 route.destination.toNat ++ 9 :: (hexText 8 route.gateway.toNat ++
      9 :: (hexText 4 route.flags.toNat ++ 9 :: route.rest))))
  have small : hexValue (hexText 4 route.flags.toNat) < 4294967296 := by
    have bound := route.flags.toNat_lt
    rw [hexValue_hexText 4 _ (by omega)]
    omega
  have flags := extractHex_padded padding_tab (hexText_ne_nil 3 _) (hexText_isHexDigit 4 _) small
    (ends_space 9 rfl route.rest)
  rw [List.nil_append] at name
  rw [List.singleton_append] at flags
  simp only [readRoute, Route.line, name, bind, StateT.bind, Option.bind,
    extractWord_column (word_hexText 7 _), flags]
  rfl

/-- Only the number zero is printed with zeros. -/
theorem hexText_zero_iff (value : UInt32) :
    hexText 8 value.toNat = ascii "00000000" ↔ value = 0 := by
  have bound := value.toNat_lt
  constructor
  · intro same
    have read := hexValue_hexText 8 value.toNat (by omega)
    rw [same] at read
    exact UInt32.toNat_inj.mp read.symm
  · rintro rfl
    rfl

/-- The first route to the destination zero decides. -/
theorem firstDefault_lines (routes : List Route) :
    firstDefault (routes.map Route.line) =
      match routes.find? fun route => route.destination = 0 with
      | none => .error (ascii "Default network interface not found")
      | some route => .ok route.interface.text := by
  induction routes with
  | nil => rfl
  | cons route routes ih =>
      simp only [List.map_cons, firstDefault, readRoute_line, hexText_zero_iff, List.find?_cons]
      by_cases default : route.destination = 0
      · simp [default]
      · simp [default, ih]

theorem word_newline {word : Bytes} (known : Word word) : 10 ∉ word := by
  intro member
  have visible := known.2 10 member
  cases visible

theorem newline_route (route : Route) : 10 ∉ route.line := by
  have destination := word_newline (word_hexText 7 route.destination.toNat)
  have gateway := word_newline (word_hexText 7 route.gateway.toNat)
  have flags := word_newline (word_hexText 3 route.flags.toNat)
  have name := word_newline route.interface.word
  have tab : (10 : UInt8) ≠ 9 := by decide
  simp only [Route.line, List.mem_append, List.mem_cons, not_or]
  exact ⟨name, tab, destination, tab, gateway, tab, flags, tab, route.restLine⟩

/-- The interface of the first default route is found. -/
theorem detectDefaultInterface_text (table : RouteTable) :
    detectDefaultInterface (some table.text) =
      match table.routes.find? fun route => route.destination = 0 with
      | none => .error (ascii "Default network interface not found")
      | some route => .ok route.interface.text := by
  have clean : ∀ line ∈ table.header :: table.routes.map Route.line, 10 ∉ line := by
    intro line member
    obtain rfl | member := List.mem_cons.mp member
    · exact table.headerLine
    · obtain ⟨route, _, rfl⟩ := List.mem_map.mp member
      exact newline_route route
  rw [detectDefaultInterface, RouteTable.text, linesFrom_flatMap 10 _ clean]
  exact firstDefault_lines table.routes

theorem stops_column (device : Device) (index : Fin 16) (rest : Bytes) :
    Stops (device.column index ++ rest) := by
  simp [Device.column, List.replicate_succ]

theorem extractUnsigned_column (device : Device) (index : Fin 16) {rest : Bytes}
    (stops : Stops rest) :
    extractUnsigned (device.column index ++ rest) = some (device.counters index, rest) := by
  rw [Device.column, List.append_assoc]
  exact extractUnsigned_padded _ (padding_replicate _) stops

/-- The first and the ninth column are the received and the sent bytes. -/
theorem readCounters_columns (device : Device) :
    readCounters device.columns = some ((device.counters 0, device.counters 8), []) := by
  have shape : device.columns = device.column 0 ++ (device.column 1 ++ (device.column 2 ++
      (device.column 3 ++ (device.column 4 ++ (device.column 5 ++ (device.column 6 ++
      (device.column 7 ++ (device.column 8 ++ (device.column 9 ++ (device.column 10 ++
      (device.column 11 ++ (device.column 12 ++ (device.column 13 ++ (device.column 14 ++
      (device.column 15 ++ []))))))))))))))) := rfl
  simp only [readCounters, shape, bind, StateT.bind, Option.bind, extractUnsigned_column,
    stops_column, stops_nil]
  rfl

/-- A line is cut behind its name, which loses its indentation. -/
theorem split_line (device : Device) :
    splitFirst 58 device.line = some
      (List.replicate device.indent 32 ++ device.interface.text, device.columns) ∧
    trim isBlank (List.replicate device.indent 32 ++ device.interface.text) =
      device.interface.text := by
  have visible : ∀ byte ∈ device.interface.text, isBlank byte = false := by
    intro byte member
    have known := device.interface.word.2 byte member
    simp only [isSpace, isBlank, Bool.not_eq_true', decide_eq_false_iff_not, not_or,
      not_and] at known ⊢
    exact ⟨known.1, fun tab => known.2 (tab ▸ UInt8.le_refl 9) (tab ▸ by decide)⟩
  constructor
  · apply splitFirst_append
    intro member
    obtain blank | inside := List.mem_append.mp member
    · cases List.eq_of_mem_replicate blank
    · exact device.interface.noColon inside
  · have front : ∀ byte ∈ List.replicate device.indent 32, isBlank byte = true := by
      intro byte member
      rw [List.eq_of_mem_replicate member]
      rfl
    have back : ∀ byte ∈ ([] : Bytes), isBlank byte = true := fun _ none =>
      absurd none List.not_mem_nil
    have trimmed := trim_padded front back
      (fun byte first => visible byte (List.mem_of_mem_head? first))
      (fun byte last => visible byte (List.mem_of_getLast? last))
    rwa [List.append_nil] at trimmed

/-- The first device of this name decides. -/
theorem findInterface_lines (interfaceName : Bytes) (devices : List Device) :
    findInterface interfaceName (devices.map Device.line) =
      match devices.find? fun device => device.interface.text = interfaceName with
      | none => .error (ascii "Network interface not found: " ++ interfaceName)
      | some device => .ok device.stats := by
  induction devices with
  | nil => rfl
  | cons device devices ih =>
      obtain ⟨cut, trimmed⟩ := split_line device
      simp only [List.map_cons, findInterface, cut, trimmed, device.interface.word.1, if_false,
        readCounters_columns, List.find?_cons]
      by_cases same : device.interface.text = interfaceName
      · simp [same, Device.stats]
      · simp [same, ih]

theorem newline_device (device : Device) : 10 ∉ device.line := by
  have name := word_newline device.interface.word
  have columns : 10 ∉ device.columns := by
    intro member
    obtain ⟨index, _, inside⟩ := List.mem_flatMap.mp member
    obtain blank | digit := List.mem_append.mp inside
    · cases List.eq_of_mem_replicate blank
    · exact (isDigit_ordinary (decimal_isDigit _ 10 digit)).2.2.2.2.1 rfl
  have indent : 10 ∉ List.replicate device.indent (32 : UInt8) := by
    intro member
    cases List.eq_of_mem_replicate member
  simp only [Device.line, List.mem_append, List.mem_cons, not_or]
  exact ⟨⟨indent, name⟩, by decide, columns⟩

/-- The counters of the first interface with this name are collected. -/
theorem collect_text (table : DeviceTable) (interfaceName : Bytes) :
    collect (some table.text) interfaceName =
      match table.devices.find? fun device => device.interface.text = interfaceName with
      | none => .error (ascii "Network interface not found: " ++ interfaceName)
      | some device => .ok device.stats := by
  have clean : ∀ line ∈ table.first :: table.second :: table.devices.map Device.line,
      10 ∉ line := by
    simp only [List.forall_mem_cons, List.forall_mem_map]
    exact ⟨table.firstLine, table.secondLine, fun device _ => newline_device device⟩
  rw [collect, DeviceTable.text, linesFrom_flatMap 10 _ clean]
  exact findInterface_lines interfaceName table.devices

/-- The tables that the kernel prints, with any routes and any interfaces, are read exactly: the
agent takes the interface of the first default route and the two counters of that interface, and it
throws exactly where there is none. -/
theorem tables_read (routes : RouteTable) (devices : DeviceTable) :
    (detectDefaultInterface (some routes.text) =
      match routes.routes.find? fun route => route.destination = 0 with
      | none => .error (ascii "Default network interface not found")
      | some route => .ok route.interface.text) ∧
    ∀ interfaceName, collect (some devices.text) interfaceName =
      match devices.devices.find? fun device => device.interface.text = interfaceName with
      | none => .error (ascii "Network interface not found: " ++ interfaceName)
      | some device => .ok device.stats :=
  ⟨detectDefaultInterface_text routes, collect_text devices⟩

def loopback : DeviceName := ⟨ascii "lo", by decide, by decide⟩

def ethernet : DeviceName := ⟨ascii "eth0", by decide, by decide⟩

/-- A local route stands before the default route. -/
def loadRoutes : RouteTable where
  header := ascii "Iface\tDestination\tGateway\tFlags"
  headerLine := by decide
  routes := [⟨ethernet, 43200, 0, 1, ascii "0\t0\t100", by decide⟩,
    ⟨ethernet, 0, 16820416, 3, ascii "0\t0\t100", by decide⟩]

/-- A device that counted these bytes shows no other traffic. -/
def loadDevice (interface : DeviceName) (rxBytes txBytes : UInt64) : Device where
  indent := 2
  interface := interface
  blanks _ := 3
  counters index :=
    match index.val with
    | 0 => rxBytes
    | 8 => txBytes
    | _ => 0

def loadDevices : DeviceTable where
  first := ascii "Inter-|   Receive  |  Transmit"
  second := ascii " face |bytes packets|bytes packets"
  firstLine := by decide
  secondLine := by decide
  devices := [loadDevice loopback 77 77, loadDevice ethernet 5000 300]

/-- The default route leads to the first device. -/
theorem tables_read_load :
    detectDefaultInterface (some loadRoutes.text) = .ok (ascii "eth0") ∧
    collect (some loadDevices.text) (ascii "eth0") = .ok ⟨ascii "eth0", 5000, 300⟩ := by
  have read := tables_read loadRoutes loadDevices
  exact ⟨read.1, read.2 (ascii "eth0")⟩

end LMonitor.NetworkCollector
