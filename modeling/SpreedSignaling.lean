import SpreedSignaling.GoStrings
import SpreedSignaling.Client
import SpreedSignaling.Load
import SpreedSignaling.Reload
import SpreedSignaling.Watch
import SpreedSignaling.Backoff
import SpreedSignaling.Interleaving
import SpreedSignaling.Notifications
import SpreedSignaling.SerialLoads
import SpreedSignaling.Credentials
