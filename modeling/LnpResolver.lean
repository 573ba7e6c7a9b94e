import LnpResolver.CacheConnection
import LnpResolver.CacheQueue
import LnpResolver.Signals
import LnpResolver.DriverCounters
import LnpResolver.IssuingDriver
import LnpResolver.ReplyAccounting
import LnpResolver.RequestAdmission
import LnpResolver.DriverLoading
import LnpResolver.ErrorReplies
import LnpResolver.JsonErrorReplies
import LnpResolver.RoutingNumbers
import LnpResolver.EventDelivery
import LnpResolver.LookupUrls
import LnpResolver.CoureAnqAnswers
import LnpResolver.ConfigFidelity
import LnpResolver.SocketBookkeeping
import LnpResolver.UriParser
import LnpResolver.ReceiveBounds
import LnpResolver.ConnString
import LnpResolver.ErrorRuns
import LnpResolver.CJsonValues
import LnpResolver.CJsonMemory
import LnpResolver.CnamReplies
import LnpResolver.ResolverTransfers
