/-!
# History of the zones

How the clocks of the zones were set before the rules of today. A change is given by its instant of
universal time, in seconds from the start of year 1. Before the first change clocks show the mean
solar time of the place.
-/

namespace SalesDesk.Zone

/-- A time in which the clocks of a place change between two offsets, the first change being to the
first of them. -/
structure Era where
  first : Int
  second : Int
  /-- The changes, the earliest first. -/
  changes : List Nat
  deriving DecidableEq, Repr

/-- The offset after the last change up to an instant, if there is one. -/
def Era.offsetAt? (e : Era) (seconds : Nat) : Option Int :=
  let count := (e.changes.takeWhile (· ≤ seconds)).length
  if count = 0 then none else some (if count % 2 = 1 then e.first else e.second)

/-- The eras of the clocks of a place, the earliest first. -/
structure History where
  solarOffset : Int
  eras : List Era
  deriving DecidableEq, Repr

/-- The offset of clocks at an instant. -/
def History.offsetAt (h : History) (seconds : Nat) : Int :=
  h.eras.foldl (fun offset e => (e.offsetAt? seconds).getD offset) h.solarOffset

/-- The clocks of Paris at first. -/
def parisFirstEra : Era where
  first := 0
  second := 3600
  changes :=
    [60279637839, 60445782000, 60455199600, 60470233200, 60487254000, 60500473200, 60518703600,
     60531318000, 60550153200, 60561558000, 60583330800, 60595599600, 60615039600, 60628086000,
     60645020400, 60664978800, 60676470000, 60691590000, 60707919600, 60723644400, 60739369200,
     60756303600, 60770818800, 60787148400, 60802268400, 60819202800, 60834322800, 60851257200,
     60865772400, 60882102000, 60897222000, 60914156400, 60928671600, 60944396400, 60960121200,
     60975241200, 60992175600, 61007900400, 61023625200, 61038745200, 61055074800, 61072009200,
     61086524400, 61102249200, 61117974000, 61133094000, 61149423600, 61166358000, 61185106800,
     61193584800]

/-- The clocks of Paris later on, up to the end of 1995. -/
def parisSecondEra : Era where
  first := 7200
  second := 3600
  changes :=
    [61203160800, 61278339600, 61291040400, 61307370000, 61323094800, 61339330800, 61354544400,
     61368973200, 62332416000, 62348137200, 62364474000, 62379594000, 62395923600, 62411648400,
     62427373200, 62443098000, 62459427600, 62474547600, 62490272400, 62505997200, 62521722000,
     62537446800, 62553171600, 62568896400, 62584621200, 62600950800, 62616675600, 62632400400,
     62648125200, 62663850000, 62679574800, 62695299600, 62711024400, 62726749200, 62742474000,
     62758198800, 62773923600, 62790253200, 62805978000, 62821702800, 62837427600, 62853152400,
     62868877200, 62884602000, 62900326800, 62916051600, 62931776400, 62947501200]

def parisHistory : History where
  solarOffset := 561
  eras := [parisFirstEra, parisSecondEra]

/-- The clocks of New York, up to the end of 2006. -/
def newYorkEra : Era where
  first := -18000
  second := -14400
  changes :=
    [59417946000, 60502316400, 60520456800, 60533766000, 60551906400, 60565215600, 60583960800,
     60599084400, 60612386400, 60631138800, 60643836000, 60662588400, 60675890400, 60694038000,
     60707340000, 60725487600, 60738789600, 60756937200, 60770239200, 60788386800, 60801688800,
     60820441200, 60833743200, 60851890800, 60865192800, 60883340400, 60896642400, 60914790000,
     60928092000, 60946239600, 60959541600, 60978294000, 60990991200, 61009743600, 61023045600,
     61041193200, 61054495200, 61072642800, 61085944800, 61104092400, 61117394400, 61135542000,
     61148844000, 61167596400, 61180293600, 61199046000, 61212348000, 61230495600, 61243797600,
     61255378800, 61370200800, 61388348400, 61401650400, 61419798000, 61433100000, 61451247600,
     61464549600, 61482697200, 61495999200, 61514751600, 61527448800, 61546201200, 61559503200,
     61577650800, 61590952800, 61609100400, 61622402400, 61640550000, 61653852000, 61671999600,
     61688325600, 61704054000, 61719775200, 61735503600, 61751224800, 61766953200, 61782674400,
     61798402800, 61814124000, 61829852400, 61846178400, 61861906800, 61877628000, 61893356400,
     61909077600, 61924806000, 61940527200, 61956255600, 61971976800, 61987705200, 62004031200,
     62019154800, 62035480800, 62051209200, 62066930400, 62082658800, 62098380000, 62114108400,
     62129829600, 62145558000, 62161279200, 62177007600, 62193333600, 62209062000, 62224783200,
     62240511600, 62256232800, 62262284400, 62287682400, 62297967600, 62319132000, 62334860400,
     62351186400, 62366310000, 62382636000, 62398364400, 62414085600, 62429814000, 62445535200,
     62461263600, 62476984800, 62492713200, 62508434400, 62524162800, 62540488800, 62555612400,
     62571938400, 62587666800, 62603388000, 62619116400, 62634837600, 62650566000, 62666287200,
     62680201200, 62697736800, 62711650800, 62729791200, 62743100400, 62761240800, 62774550000,
     62792690400, 62806604400, 62824140000, 62838054000, 62855589600, 62869503600, 62887644000,
     62900953200, 62919093600, 62932402800, 62950543200, 62964457200, 62981992800, 62995906800,
     63013442400, 63027356400, 63044892000, 63058806000, 63076946400, 63090255600, 63108396000,
     63121705200, 63139845600, 63153759600, 63171295200, 63185209200, 63202744800, 63216658800,
     63234799200, 63248108400, 63266248800, 63279558000, 63297698400]

def newYorkHistory : History where
  solarOffset := -17762
  eras := [newYorkEra]

/-- The clocks of Kolkata at first. -/
def kolkataFirstEra : Era where
  first := 21200
  second := 19270
  changes :=
    [58490359592, 58979902000]

def kolkataSecondEra : Era where
  first := 19800
  second := 23400
  changes :=
    [60115891130, 61244015400, 61263538200, 61272959400, 61371451800]

def kolkataHistory : History where
  solarOffset := 21208
  eras := [kolkataFirstEra, kolkataSecondEra]

def tokyoEra : Era where
  first := 32400
  second := 36000
  changes :=
    [59547884400, 61451794800, 61463286000, 61480825200, 61494735600, 61515298800, 61526185200,
     61546748400, 61557634800]

def tokyoHistory : History where
  solarOffset := 33539
  eras := [tokyoEra]

end SalesDesk.Zone
