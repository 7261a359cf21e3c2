import Mathlib.Data.List.Infix
import DataApi.Library.Relation
import DataApi.QueryEngine.PiiMapper

/-!
# The deeplink query

`build_power_bi_deeplink_query` and what Trino returns for it: the events that
meet the conditions, each joined with the customers of its account, in an order
that ties of the timestamp leave open.
-/

namespace DataApi
namespace QueryEngine

open Library

/-- A row of `cpm_event_raw`; every column may be null. -/
structure EventRow where
  timestamp : Option Int
  segmentation : Option (Dict String (Option String))
  accountid : Option String
  userAgent : Option String
  key : Option String

/-- A row of `t_cust_customer`. -/
structure CustomerRow where
  customerCode : Option String
  custFullName : Option String

/-- An event with the customer it was joined with. -/
abbrev JoinedRow := EventRow × Option CustomerRow

/-- The deeplink statement; dates are day numbers. -/
structure DeeplinkQuery where
  eventKey : String
  startDate : Int
  endDate : Int
  status : Option String
  segmentationFilters : List String
  userAgentFilters : List String
  accountIdFilters : List String
  limit : Option Nat

/-- The arguments of a deeplink request. -/
structure DeeplinkArguments where
  startDate : Int
  endDate : Int
  limit : Option Nat
  segmentationFilters : List String := []
  userAgentFilters : List String := []
  customerIds : List String := []

/-- `build_power_bi_deeplink_query`. -/
def buildPowerBiDeeplinkQuery (casefold : String → String) (eventKey : String)
    (status : Option String) (arguments : DeeplinkArguments)
    (accountIdFilters : List String) : DeeplinkQuery where
  eventKey := eventKey
  startDate := arguments.startDate
  endDate := arguments.endDate
  status := status
  segmentationFilters := arguments.segmentationFilters.map casefold
  userAgentFilters := arguments.userAgentFilters.map casefold
  accountIdFilters := accountIdFilters
  limit := arguments.limit

/-- Trino: its `lower`, the day and the text of a timestamp, and the order and
numbers it gives to the rows of a result. -/
structure Trino where
  lower : String → String
  eventDate : Int → Int
  formatTime : Int → String
  arrange : List JoinedRow → List (Nat × JoinedRow)
  arrange_perm : ∀ rows, ((arrange rows).map Prod.snd).Perm rows

namespace Trino

variable (E : Trino)

/-- `element_at(segmentation, key)`. -/
def elementAt (event : EventRow) (key : String) : Option String :=
  event.segmentation.bind fun segmentation => (segmentation.get? key).join

/-- `lower(user_agent) LIKE '%part%'`; a null is not like anything. -/
def userAgentLike (event : EventRow) (part : String) : Bool :=
  event.userAgent.any fun userAgent =>
    decide (part.toList <:+: (E.lower userAgent).toList)

/-- The `CASE` of the device. -/
def device (event : EventRow) : String :=
  if E.userAgentLike event "android" || E.userAgentLike event "dalvik" then "Android"
  else if E.userAgentLike event "cfnetwork" || E.userAgentLike event "darwin" then "iOS"
  else "Other"

/-- `value IN filters`, left out without filters; a null is in no list. -/
def inFilters (filters : List String) (value : Option String) : Bool :=
  filters.isEmpty || value.any fun value => decide (value ∈ filters)

/-- The conditions on the event, but for the one on its account. -/
def selects (query : DeeplinkQuery) (event : EventRow) : Bool :=
  event.key == some query.eventKey &&
    elementAt event "bank_method" == some "deeplink" &&
    event.timestamp.any (fun timestamp =>
      decide (query.startDate ≤ E.eventDate timestamp) &&
        decide (E.eventDate timestamp ≤ query.endDate)) &&
    query.status.all (fun status => elementAt event "status" == some status) &&
    inFilters query.segmentationFilters ((elementAt event "bank_name").map E.lower) &&
    inFilters query.userAgentFilters (some (E.lower (E.device event)))

/-- The join condition `accountid = c_customer_code`. -/
def sameAccount (event : EventRow) (customer : CustomerRow) : Bool :=
  event.accountid.isSome && event.accountid == customer.customerCode

/-- The rows that meet the conditions. -/
def joinedRows (query : DeeplinkQuery) (events : List EventRow)
    (customers : List CustomerRow) : List JoinedRow :=
  (leftJoin sameAccount events customers).filter fun row =>
    E.selects query row.1 && inFilters query.accountIdFilters row.1.accountid

variable {P : Scalars}

/-- A text or a null. -/
def cell (value : Option String) : PyValue P :=
  match value with
  | none => .none
  | some value => .str value

/-- The columns of the result behind its number. -/
def resultColumns (row : JoinedRow) : List (String × PyValue P) :=
  [("event_time", cell (row.1.timestamp.map E.formatTime)),
    ("bank_name", cell (elementAt row.1 "bank_name")),
    ("accountid", cell row.1.accountid),
    ("c_cust_full_name", cell (row.2.bind CustomerRow.custFullName)),
    ("device", .str (E.device row.1))]

/-- A row of the result. -/
def resultRow (stt : Nat) (row : JoinedRow) : Row P where
  entries := ("stt", .int stt) :: E.resultColumns row
  nodup := by
    change ["stt", "event_time", "bank_name", "accountid", "c_cust_full_name",
      "device"].Nodup
    decide

/-- What Trino returns. -/
def execute (query : DeeplinkQuery) (events : List EventRow)
    (customers : List CustomerRow) : List (Row P) :=
  let rows := (E.arrange (E.joinedRows query events customers)).map fun numbered =>
    E.resultRow numbered.1 numbered.2
  match query.limit with
  | none => rows
  | some limit => rows.take limit

end Trino

end QueryEngine
end DataApi
