import SveltyCms.JsString
import SveltyCms.Routing
import SveltyCms.Watcher
import SveltyCms.Trace
import SveltyCms.Invariant
import SveltyCms.Callbacks
import SveltyCms.Debounce
import SveltyCms.Rename
import SveltyCms.Replace
import SveltyCms.DevPort
import SveltyCms.Roles
import SveltyCms.Serial
import SveltyCms.Startup
